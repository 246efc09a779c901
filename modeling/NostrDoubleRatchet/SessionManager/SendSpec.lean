import NostrDoubleRatchet.SessionManager.Invariant

/-!
What the sending functions leave behind when they return: which session produced a
delivery, and what became of the record and of the other devices.
-/

namespace NostrDoubleRatchet

variable {K T : Type} [LinearOrder K] [Primitives K T] [InvitePrimitives K T]

/-- The session once it has sent on its chain, which goes on with `chainKey`. -/
def Session.advanced (session : Session K) (chainKey : K) : Session K :=
  { session with
    state := { session.state with
      sendingChainKey := some chainKey
      sendingChainMessageNumber := u32Succ session.state.sendingChainMessageNumber } }

omit [InvitePrimitives K T] in
theorem ratchetEncrypt_nextState {state next : SessionState K} {nonce : K} {plaintext : T}
    {header : Header K} {ciphertext : T}
    (h : ratchetEncrypt state nonce plaintext = .ok (next, header, ciphertext)) :
    ∃ chainKey, next = { state with
      sendingChainKey := some chainKey
      sendingChainMessageNumber := u32Succ state.sendingChainMessageNumber } := by
  unfold ratchetEncrypt at h
  cases hchain : state.sendingChainKey with
  | none =>
      rw [hchain] at h
      cases h
  | some chainKey =>
      rw [hchain] at h
      obtain ⟨encrypted, -, hresult⟩ := except_bind_eq_ok.mp h
      cases hresult
      exact ⟨_, rfl⟩

omit [InvitePrimitives K T] in
theorem planSend_nextState {session : Session K} {bodyNonce headerNonce : K} {payload : T}
    {now : UnixSeconds} {plan : SendPlan K T}
    (h : session.planSend bodyNonce headerNonce payload now = .ok plan) :
    session.canSend = true ∧ ∃ chainKey, session.applySend plan = session.advanced chainKey := by
  unfold Session.planSend at h
  cases hcan : session.canSend with
  | false =>
      rw [hcan] at h
      cases h
  | true =>
      rw [hcan] at h
      obtain ⟨⟨next, header, ciphertext⟩, hencrypt, hrest⟩ := except_bind_eq_ok.mp h
      obtain ⟨chainKey, hstate⟩ := ratchetEncrypt_nextState hencrypt
      refine ⟨rfl, chainKey, ?_⟩
      cases hcurrent : session.state.ourCurrentNostrKey with
      | none =>
          simp only [hcurrent] at hrest
          cases hrest
      | some ourCurrent =>
          simp only [hcurrent] at hrest
          obtain ⟨ourSecret, -, hrest⟩ := except_bind_eq_ok.mp hrest
          cases hnext : session.state.theirNextNostrPublicKey with
          | none =>
              simp only [hnext] at hrest
              cases hrest
          | some theirNext =>
              simp only [hnext] at hrest
              obtain ⟨theirs, -, hrest⟩ := except_bind_eq_ok.mp hrest
              obtain ⟨encryptedHeader, -, hrest⟩ := except_bind_eq_ok.mp hrest
              cases hrest
              rw [Session.applySend, hstate, Session.advanced]

omit [InvitePrimitives K T] in
theorem sendWithSession_session {session session' : Session K} {payload : T} {now : UnixSeconds}
    {device : DevicePubkey K} {envelope : MessageEnvelope K T} {rng rng' : Rng K}
    (h : sendWithSession session payload now device rng = (.ok (session', envelope), rng')) :
    session.canSend = true ∧ ∃ chainKey, session' = session.advanced chainKey := by
  unfold sendWithSession at h
  obtain ⟨bodyNonce, rng₁, -, h⟩ := RandM.bind_eq_ok.mp h
  obtain ⟨headerNonce, rng₂, -, h⟩ := RandM.bind_eq_ok.mp h
  obtain ⟨plan, rng₃, hplan, h⟩ := RandM.bind_eq_ok.mp h
  cases h
  exact planSend_nextState (RandM.lift_eq_ok.mp hplan).1

/-! A session made by accepting an invite. -/

/-- A session that can send and has received nothing. -/
structure Session.Initiated (session : Session K) : Prop where
  canSend : session.canSend = true
  receivingChainKey : session.state.receivingChainKey = none
  theirCurrentNostrPublicKey : session.state.theirCurrentNostrPublicKey = none
  receivingChainMessageNumber : session.state.receivingChainMessageNumber = 0
  sendingChainMessageNumber : session.state.sendingChainMessageNumber = 0

omit [InvitePrimitives K T] in
theorem newInitiator_initiated {theirs : DevicePubkey K} {ours secret : K} {rng rng' : Rng K}
    {session : Session K}
    (h : Session.newInitiator theirs ours secret rng = (.ok session, rng')) :
    session.Initiated := by
  unfold Session.newInitiator Session.initWithContext at h
  obtain ⟨⟨blinded, ours'⟩, rng₁, -, h⟩ := RandM.bind_eq_ok.mp h
  obtain ⟨ourSecret, rng₂, -, h⟩ := RandM.bind_eq_ok.mp h
  obtain ⟨nextPrivate, rng₃, -, h⟩ := RandM.bind_eq_ok.mp h
  obtain ⟨nextSecret, rng₄, -, h⟩ := RandM.bind_eq_ok.mp h
  rw [if_pos rfl] at h
  obtain ⟨peer, rng₅, -, h⟩ := RandM.bind_eq_ok.mp h
  obtain ⟨conversationKey, rng₆, -, h⟩ := RandM.bind_eq_ok.mp h
  cases h
  exact ⟨rfl, rfl, rfl, rfl, rfl⟩

theorem acceptWithOwnerContext_initiated {invite : Invite K T} {now : UnixSeconds}
    {publicKey : DevicePubkey K} {privateKey : K} {owner : Option (OwnerPubkey K)}
    {rng rng' : Rng K} {session : Session K} {response : InviteResponseEnvelope K T}
    (h : invite.acceptWithOwnerContext now publicKey privateKey owner rng =
      (.ok (session, response), rng')) : session.Initiated := by
  unfold Invite.acceptWithOwnerContext at h
  split at h
  · cases h
  · obtain ⟨-, rng₁, -, h⟩ := RandM.bind_eq_ok.mp h
    obtain ⟨sessionKey, rng₂, -, h⟩ := RandM.bind_eq_ok.mp h
    obtain ⟨sessionPublicKey, rng₃, -, h⟩ := RandM.bind_eq_ok.mp h
    obtain ⟨sessionSecret, rng₄, -, h⟩ := RandM.bind_eq_ok.mp h
    obtain ⟨aux, rng₅, -, h⟩ := RandM.bind_eq_ok.mp h
    obtain ⟨made, rng₆, hmade, h⟩ := RandM.bind_eq_ok.mp h
    have hsession : made = session := by
      repeat obtain ⟨x, rngx, -, h⟩ := RandM.bind_eq_ok.mp h
      cases h
      rfl
    rw [← hsession]
    exact newInitiator_initiated hmade

/-! What a record becomes. -/

namespace DeviceRecord

/-- How a delivery was made from a record: the session that produced it, and what the
record became. -/
inductive Delivered (record : DeviceRecord K T) (owner : OwnerPubkey K) (device : DevicePubkey K)
    (payload : T) (now : UnixSeconds) (refresh : Bool) : Delivery K T → DeviceRecord K T → Prop
  | active {session session' : Session K} {envelope : MessageEnvelope K T} {rng rng' : Rng K} :
      record.activeSession = some session →
      sendWithSession session payload now device rng = (.ok (session', envelope), rng') →
      Delivered record owner device payload now refresh ⟨owner, device, envelope⟩
        { record with activeSession := some session', lastActivity := some now }
  | inactive {index : Nat} {session session' : Session K} {envelope : MessageEnvelope K T}
      {rng rng' : Rng K} :
      record.inactiveSessions[index]? = some session →
      sendWithSession session payload now device rng = (.ok (session', envelope), rng') →
      Delivered record owner device payload now refresh ⟨owner, device, envelope⟩
        { { record with inactiveSessions := record.inactiveSessions.eraseIdx index
            }.upsertSession session' now with lastActivity := some now }
  | bootstrap {session session' : Session K} {envelope : MessageEnvelope K T}
      {rng rng' : Rng K} :
      (refresh = true ∨ record.bestSendSessionSource = none) → session.Initiated →
      sendWithSession session payload now device rng = (.ok (session', envelope), rng') →
      Delivered record owner device payload now refresh ⟨owner, device, envelope⟩
        ({ record with inviteResponseGenerated := true }.upsertSession session' now)

omit [InvitePrimitives K T] in
theorem Delivered.address {record record' : DeviceRecord K T} {owner : OwnerPubkey K}
    {device : DevicePubkey K} {payload : T} {now : UnixSeconds} {refresh : Bool}
    {delivery : Delivery K T}
    (h : record.Delivered owner device payload now refresh delivery record') :
    delivery.ownerPubkey = owner ∧ delivery.devicePubkey = device := by
  cases h <;> exact ⟨rfl, rfl⟩

theorem bootstrapDelivery_delivered {record record' : DeviceRecord K T}
    {identity : LocalIdentity K} {invite : Invite K T} {owner : OwnerPubkey K}
    {device : DevicePubkey K} {payload : T} {now : UnixSeconds} {refresh : Bool}
    {rng rng' : Rng K} {delivery : Delivery K T} {response : Option (InviteResponseEnvelope K T)}
    (hwhen : refresh = true ∨ record.bestSendSessionSource = none)
    (h : record.bootstrapDelivery identity invite owner device payload now rng =
      (.ok (some ((delivery, response), record')), rng')) :
    record.Delivered owner device payload now refresh delivery record' := by
  unfold bootstrapDelivery at h
  split at h
  · cases h
  · cases h
  · cases h
  · rename_i session inviteResponse rng₁ haccept
    split at h
    · cases h
    · rename_i session' envelope rng₂ hsend
      cases h
      exact .bootstrap hwhen (acceptWithOwnerContext_initiated haccept) hsend

omit [InvitePrimitives K T] in
theorem sourceDelivery_delivered {record record' : DeviceRecord K T}
    {source : SendSessionSource} {owner : OwnerPubkey K} {device : DevicePubkey K} {payload : T}
    {now : UnixSeconds} {refresh : Bool} {rng rng' : Rng K} {delivery : Delivery K T}
    {response : Option (InviteResponseEnvelope K T)}
    (h : record.sourceDelivery source owner device payload now rng =
      (.ok ((delivery, response), record'), rng')) :
    record.Delivered owner device payload now refresh delivery record' := by
  unfold sourceDelivery at h
  cases hsession : record.sessionForSendSource source with
  | none =>
      rw [hsession] at h
      cases h
  | some session =>
      rw [hsession] at h
      obtain ⟨⟨session', envelope⟩, rng₁, hsend, h⟩ := RandM.bind_eq_ok.mp h
      cases source with
      | active =>
          cases h
          exact .active hsession hsend
      | inactive index =>
          cases h
          exact .inactive hsession hsend

theorem deliver_delivered {record record' : DeviceRecord K T} {identity : LocalIdentity K}
    {owner : OwnerPubkey K} {device : DevicePubkey K} {payload : T} {now : UnixSeconds}
    {refresh : Bool} {rng rng' : Rng K} {delivery : Delivery K T}
    {response : Option (InviteResponseEnvelope K T)}
    (h : record.deliver identity owner device payload now refresh rng =
      (.ok (some ((delivery, response), record')), rng')) :
    record.Delivered owner device payload now
      (record.shouldRefresh identity owner device refresh) delivery record' := by
  unfold deliver at h
  obtain ⟨refreshed, rng₁, hrefresh, h⟩ := RandM.bind_eq_ok.mp h
  cases refreshed with
  | some result =>
      cases h
      cases hinvite : record.publicInvite with
      | none =>
          rw [hinvite] at hrefresh
          cases hrefresh
      | some invite =>
          simp only [hinvite] at hrefresh
          split at hrefresh
          · rename_i hshould
            exact bootstrapDelivery_delivered (Or.inl hshould) hrefresh
          · cases hrefresh
  | none =>
      cases hsource : record.bestSendSessionSource with
      | some source =>
          simp only [hsource] at h
          obtain ⟨result, rng₂, hresult, h⟩ := RandM.bind_eq_ok.mp h
          cases h
          exact sourceDelivery_delivered hresult
      | none =>
          cases hinvite : record.publicInvite with
          | none =>
              simp only [hsource, hinvite] at h
              cases h
          | some invite =>
              simp only [hsource, hinvite] at h
              exact bootstrapDelivery_delivered (Or.inr hsource) h

end DeviceRecord

namespace SessionManager

/-- The outcome of `prepare_device_delivery`: the record is created if it was missing,
and changed further only together with a delivery to an authorized device. -/
theorem prepareDeviceDelivery_cases {manager manager' : SessionManager K T}
    {owner : OwnerPubkey K} {device : DevicePubkey K} {payload : T} {now : UnixSeconds}
    {refresh : Bool} {rng rng' : Rng K}
    {result : Except Error (Option (Delivery K T × Option (InviteResponseEnvelope K T)))}
    (h : manager.prepareDeviceDelivery owner device payload now refresh rng =
      (result, manager', rng')) :
    (manager' = manager.setDevice owner device (manager.deviceRecord owner device now) ∧
      ∀ delivery, result ≠ .ok (some delivery)) ∨
    ∃ delivery response record', result = .ok (some (delivery, response)) ∧
      manager' = manager.setDevice owner device record' ∧
      (manager.deviceRecord owner device now).authorized = true ∧
      (manager.deviceRecord owner device now).isStale = false ∧
      (manager.deviceRecord owner device now).Delivered owner device payload now
        ((manager.deviceRecord owner device now).shouldRefresh manager.localIdentity owner device
          refresh) delivery record' := by
  unfold prepareDeviceDelivery at h
  simp only at h
  split at h
  · cases h
    exact Or.inl ⟨rfl, fun delivery hdelivery => by cases hdelivery⟩
  · rename_i hflags
    simp only [Bool.or_eq_true, Bool.not_eq_true', not_or, Bool.not_eq_false,
      Bool.not_eq_true] at hflags
    split at h
    · cases h
      exact Or.inl ⟨rfl, fun delivery hdelivery => by cases hdelivery⟩
    · cases h
      exact Or.inl ⟨rfl, fun delivery hdelivery => by cases hdelivery⟩
    · rename_i result' record' rng₁ hdeliver
      cases h
      obtain ⟨delivery, response⟩ := result'
      rw [setDevice_setDevice]
      exact Or.inr ⟨delivery, response, record', rfl, rfl, hflags.1, hflags.2,
        DeviceRecord.deliver_delivered hdeliver⟩

omit [InvitePrimitives K T] in
/-- The outcome of `prepare_device_deliveries_for_all_send_sessions`. -/
theorem prepareDeviceDeliveriesForAllSendSessions_cases {manager manager' : SessionManager K T}
    {owner : OwnerPubkey K} {device : DevicePubkey K} {payload : T} {now : UnixSeconds}
    {rng rng' : Rng K} {result : Except Error (List (Delivery K T))}
    (h : manager.prepareDeviceDeliveriesForAllSendSessions owner device payload now rng =
      (result, manager', rng')) :
    (manager' = manager.setDevice owner device (manager.deviceRecord owner device now) ∧
      result = .ok []) ∨
    ∃ record', manager' = manager.setDevice owner device record' ∧
      (manager.deviceRecord owner device now).authorized = true ∧
      (manager.deviceRecord owner device now).isStale = false ∧
      (manager.deviceRecord owner device now).deliverAll owner device payload now rng =
        (result, record', rng') := by
  unfold prepareDeviceDeliveriesForAllSendSessions at h
  simp only at h
  split at h
  · cases h
    exact Or.inl ⟨rfl, rfl⟩
  · rename_i hflags
    simp only [Bool.or_eq_true, Bool.not_eq_true', not_or, Bool.not_eq_false,
      Bool.not_eq_true] at hflags
    cases h
    exact Or.inr ⟨_, rfl, hflags.1, hflags.2, rfl⟩

theorem prepareTarget_manager (payload : T) (now : UnixSeconds) (refresh : Bool)
    (manager : SessionManager K T) (target : TargetDevice K) (collected : Collected K T)
    (rng : Rng K) :
    (prepareTarget payload now refresh manager target collected rng).2.1 =
      (manager.prepareDeviceDelivery target.ownerPubkey target.devicePubkey payload now refresh
        rng).2.1 := by
  unfold prepareTarget
  split <;> simp_all

theorem prepareExplicitSend_manager (manager : SessionManager K T)
    (recipientOwner : OwnerPubkey K) (targets : List (TargetDevice K)) (payload : T)
    (relayGaps : List (RelayGap K)) (refresh : Bool) (now : UnixSeconds) (rng : Rng K) :
    (manager.prepareExplicitSend recipientOwner targets payload relayGaps refresh now rng).2.1 =
      (fanOut (prepareTarget payload now refresh) (targetSet targets) ⟨[], [], relayGaps⟩ manager
        rng).2.1 := by
  unfold prepareExplicitSend
  split <;> simp_all

theorem prepareLocalSiblingSendReusingAllSessions_manager (manager : SessionManager K T)
    (payload : T) (now : UnixSeconds) (rng : Rng K) :
    (manager.prepareLocalSiblingSendReusingAllSessions payload now rng).2.1 =
      (fanOut (prepareTargetAllSessions payload now)
        (targetSet manager.collectLocalSiblingTargets) ⟨[], [], []⟩ manager rng).2.1 := by
  unfold prepareLocalSiblingSendReusingAllSessions
  split <;> simp_all

omit [Primitives K T] [InvitePrimitives K T] in
/-- A fan-out that succeeds passes an invariant of the targets left, of what was
collected and of the manager from target to target. -/
theorem fanOut_ok {prepare : SessionManager K T → TargetDevice K → Collected K T → Rng K →
      Outcome K T (Collected K T)}
    {I : List (TargetDevice K) → Collected K T → SessionManager K T → Prop}
    (hstep : ∀ target rest collected manager rng collected' manager' rng',
      I (target :: rest) collected manager →
      prepare manager target collected rng = (.ok collected', manager', rng') →
      I rest collected' manager')
    {targets : List (TargetDevice K)} {collected collected' : Collected K T}
    {manager manager' : SessionManager K T} {rng rng' : Rng K}
    (hI : I targets collected manager)
    (h : fanOut prepare targets collected manager rng = (.ok collected', manager', rng')) :
    I [] collected' manager' := by
  induction targets generalizing collected manager rng with
  | nil =>
      cases h
      exact hI
  | cons target rest ih =>
      unfold fanOut at h
      split at h
      · cases h
      · rename_i collected₁ manager₁ rng₁ hprepare
        exact ih (hstep target rest collected manager rng collected₁ manager₁ rng₁ hI hprepare) h

omit [Primitives K T] [InvitePrimitives K T] in
/-- An invariant of the manager survives a fan-out, however it ends. -/
theorem fanOut_manager {prepare : SessionManager K T → TargetDevice K → Collected K T → Rng K →
      Outcome K T (Collected K T)} {I : SessionManager K T → Prop}
    (hstep : ∀ target collected manager rng, I manager →
      I (prepare manager target collected rng).2.1)
    (targets : List (TargetDevice K)) (collected : Collected K T) {manager : SessionManager K T}
    (rng : Rng K) (hI : I manager) :
    I (fanOut prepare targets collected manager rng).2.1 := by
  induction targets generalizing collected manager rng with
  | nil => exact hI
  | cons target rest ih =>
      unfold fanOut
      have hnext := hstep target collected manager rng hI
      split
      · rename_i e manager₁ rng₁ hprepare
        rw [hprepare] at hnext
        exact hnext
      · rename_i collected₁ manager₁ rng₁ hprepare
        rw [hprepare] at hnext
        exact ih collected₁ rng₁ hnext

omit [Primitives K T] [InvitePrimitives K T] in
theorem nodup_targetSet (targets : List (TargetDevice K)) : (targetSet targets).Nodup := by
  have hkey : (targetSet targets).map TargetDevice.key =
      (SortedMap.ofList (targets.map (fun target => (target.key, target)))).keys := by
    unfold targetSet SortedMap.values SortedMap.keys
    rw [List.map_map]
    apply List.map_congr_left
    rintro ⟨key, target⟩ hmem
    have hentry := SortedMap.mem_of_get?_ofList (SortedMap.mem_entries.mp hmem)
    obtain ⟨target', -, heq⟩ := List.mem_map.mp hentry
    cases heq
    rfl
  apply List.Nodup.of_map TargetDevice.key
  rw [hkey]
  exact SortedMap.nodup_keys _

end SessionManager

end NostrDoubleRatchet
