import NostrDoubleRatchet.SessionManager.SendSpec

/-!
What each kind of call on a manager keeps, every run keeps. A record invariant is kept
by all of them.
-/

namespace NostrDoubleRatchet

variable {K T : Type} [LinearOrder K]

namespace SessionManager

@[simp] theorem silent_manager {α : Type} (outcome : Outcome K T α) :
    (silent outcome).2 = outcome.2 := by
  obtain ⟨result, manager, rng⟩ := outcome
  cases result <;> rfl

@[simp] theorem prepared_manager (outcome : Outcome K T (PreparedSend K T)) :
    (prepared outcome).2 = outcome.2 := by
  obtain ⟨result, manager, rng⟩ := outcome
  cases result <;> rfl

@[simp] theorem delivered_manager (outcome : Outcome K T (Option (ReceivedMessage K T))) :
    (delivered outcome).2 = outcome.2 := by
  obtain ⟨result, manager, rng⟩ := outcome
  cases result <;> rfl

/-- A property of managers that each kind of call keeps. -/
structure Preserved [DecidableEq T] [Primitives K T] [EventPrimitives K] [InvitePrimitives K T]
    (I : SessionManager K T → Prop) : Prop where
  withInvite : ∀ manager invite, I manager → I { manager with localInvite := invite }
  observePublicInvite : ∀ manager owner invite, I manager →
    I (manager.observePublicInvite owner invite).2
  applyRoster : ∀ manager owner roster replaceExisting, I manager →
    I (manager.applyRosterForOwnerInner owner roster replaceExisting).2
  observePeerAppKeysEvent : ∀ manager event observedAt, I manager →
    I (manager.observePeerAppKeysEvent event observedAt).2
  storeClaimedSession : ∀ manager claimedOwner device session now, I manager →
    I (manager.storeClaimedSession claimedOwner device session now).2
  prepareExplicitSend : ∀ manager recipientOwner targets payload relayGaps refresh now rng,
    I manager → I (manager.prepareExplicitSend recipientOwner targets payload relayGaps refresh
      now rng).2.1
  prepareReusingAllSessions : ∀ manager payload now rng, I manager →
    I (manager.prepareLocalSiblingSendReusingAllSessions payload now rng).2.1
  receive : ∀ manager senderOwner envelope now rng, I manager →
    I (manager.receive senderOwner envelope now rng).2.1
  pruneStale : ∀ manager, I manager → I manager.pruneStale.2
  deleteUser : ∀ manager owner, I manager → I (manager.deleteUser owner)

namespace Preserved

variable [DecidableEq T] [Primitives K T] [EventPrimitives K] [InvitePrimitives K T]
  {I : SessionManager K T → Prop} (hI : Preserved I)

include hI

theorem ensureLocalInvite {manager : SessionManager K T} (hmanager : I manager)
    (now : UnixSeconds) (rng : Rng K) : I (manager.ensureLocalInvite now rng).2.1 := by
  unfold SessionManager.ensureLocalInvite
  split
  · exact hI.withInvite manager _ hmanager
  · split
    · exact hmanager
    · rename_i invite rng' _
      have hobserve := hI.observePublicInvite manager manager.localOwnerPubkey invite hmanager
      split
      · rename_i hcall
        rw [hcall] at hobserve
        exact hobserve
      · rename_i manager' hcall
        rw [hcall] at hobserve
        exact hI.withInvite manager' _ hobserve

theorem observeInviteResponse {manager : SessionManager K T} (hmanager : I manager)
    (envelope : InviteResponseEnvelope K T) (now : UnixSeconds) (rng : Rng K) :
    I (manager.observeInviteResponse envelope now rng).2.1 := by
  unfold SessionManager.observeInviteResponse
  split
  · exact hmanager
  · split
    · exact hmanager
    · rename_i response ownedInvite rng' _
      have hinvite := hI.withInvite manager (some ownedInvite) hmanager
      dsimp only
      split
      · exact hinvite
      · exact hI.storeClaimedSession _ _ _ _ _ hinvite

/-- Every call keeps the property. -/
theorem perform {manager : SessionManager K T} (hmanager : I manager) (rng : Rng K)
    (operation : Operation K T) : I (manager.perform rng operation).2.1 := by
  cases operation with
  | replaceLocalInvite invite => exact hI.withInvite manager _ hmanager
  | ensureLocalInvite now =>
      simp only [SessionManager.perform, silent_manager]
      exact hI.ensureLocalInvite hmanager now rng
  | applyLocalRoster roster =>
      simp only [SessionManager.perform, applyLocalRoster, applyRosterForOwner]
      exact hI.applyRoster _ _ _ _ hmanager
  | replaceLocalRoster roster =>
      simp only [SessionManager.perform, replaceLocalRoster]
      exact hI.applyRoster _ _ _ _ hmanager
  | observePeerRoster owner roster =>
      simp only [SessionManager.perform, observePeerRoster, applyRosterForOwner]
      split
      · exact hmanager
      · exact hI.applyRoster _ _ _ _ hmanager
  | observePeerAppKeysEvent event observedAt =>
      simp only [SessionManager.perform, silent_manager]
      exact hI.observePeerAppKeysEvent _ _ _ hmanager
  | observeDeviceInvite owner invite =>
      simp only [SessionManager.perform, silent_manager, observeDeviceInvite]
      exact hI.observePublicInvite _ _ _ hmanager
  | observeInviteResponse envelope now =>
      simp only [SessionManager.perform, silent_manager]
      exact hI.observeInviteResponse hmanager envelope now rng
  | prepareSend recipientOwner payload now =>
      simp only [SessionManager.perform, prepared_manager, prepareSend, prepareSendInner]
      exact hI.prepareExplicitSend _ _ _ _ _ _ _ _ hmanager
  | prepareRemoteSend recipientOwner payload now =>
      simp only [SessionManager.perform, prepared_manager, prepareRemoteSend, prepareSendInner]
      exact hI.prepareExplicitSend _ _ _ _ _ _ _ _ hmanager
  | prepareRemoteSendToDevices recipientOwner devices payload now =>
      simp only [SessionManager.perform, prepared_manager, prepareRemoteSendToDevices]
      exact hI.prepareExplicitSend _ _ _ _ _ _ _ _ hmanager
  | prepareLocalSiblingSend payload now =>
      simp only [SessionManager.perform, prepared_manager, prepareLocalSiblingSend,
        prepareLocalSiblingSendInner]
      exact hI.prepareExplicitSend _ _ _ _ _ _ _ _ hmanager
  | prepareLocalSiblingSendToDevices devices payload now =>
      simp only [SessionManager.perform, prepared_manager, prepareLocalSiblingSendToDevices]
      exact hI.prepareExplicitSend _ _ _ _ _ _ _ _ hmanager
  | prepareLocalSiblingSendReusingSessions payload now =>
      simp only [SessionManager.perform, prepared_manager,
        prepareLocalSiblingSendReusingSessions, prepareLocalSiblingSendInner]
      exact hI.prepareExplicitSend _ _ _ _ _ _ _ _ hmanager
  | prepareLocalSiblingSendRefreshingOneWaySessions payload now =>
      simp only [SessionManager.perform, prepared_manager,
        prepareLocalSiblingSendRefreshingOneWaySessions, prepareLocalSiblingSendInner]
      exact hI.prepareExplicitSend _ _ _ _ _ _ _ _ hmanager
  | prepareLocalSiblingSendReusingAllSessions payload now =>
      simp only [SessionManager.perform, prepared_manager]
      exact hI.prepareReusingAllSessions _ _ _ _ hmanager
  | receive senderOwner envelope now =>
      simp only [SessionManager.perform, delivered_manager]
      exact hI.receive _ _ _ _ _ hmanager
  | pruneStale => exact hI.pruneStale _ hmanager
  | deleteUser owner => exact hI.deleteUser _ _ hmanager
  | importSessionState owner device state now =>
      simp only [SessionManager.perform, importSessionState, importClaimedSessionState]
      exact hI.storeClaimedSession _ _ _ _ _ hmanager
  | importClaimedSessionState claimedOwner device state now =>
      simp only [SessionManager.perform, importClaimedSessionState]
      exact hI.storeClaimedSession _ _ _ _ _ hmanager

theorem run {manager : SessionManager K T} (hmanager : I manager) (rng : Rng K)
    (operations : List (Operation K T)) : I (manager.run rng operations).1 := by
  induction operations generalizing manager rng with
  | nil => exact hmanager
  | cons operation rest ih => exact ih (hI.perform hmanager rng operation) _

end Preserved

end SessionManager

namespace SessionManager

variable [DecidableEq T] [Primitives K T] [EventPrimitives K] [InvitePrimitives K T]

/-- The two functions behind the calls that prepare deliveries. Only one call asks for
one-way sessions to be refreshed. -/
inductive PrepareCall (manager : SessionManager K T) (rng : Rng K) :
    Operation K T → Outcome K T (PreparedSend K T) → Prop
  | explicit {operation : Operation K T} {recipientOwner : OwnerPubkey K}
      {targets : List (TargetDevice K)} {payload : T} {relayGaps : List (RelayGap K)}
      {now : UnixSeconds} : PrepareCall manager rng operation
        (manager.prepareExplicitSend recipientOwner targets payload relayGaps false now rng)
  | refreshing {payload : T} {now : UnixSeconds} : PrepareCall manager rng
      (.prepareLocalSiblingSendRefreshingOneWaySessions payload now)
      (manager.prepareExplicitSend manager.localOwnerPubkey manager.collectLocalSiblingTargets
        payload [] true now rng)
  | reusingAll {operation : Operation K T} {payload : T} {now : UnixSeconds} :
      PrepareCall manager rng operation
        (manager.prepareLocalSiblingSendReusingAllSessions payload now rng)

omit [DecidableEq T] [Primitives K T] [EventPrimitives K] [InvitePrimitives K T] in
private theorem silent_output {α : Type} {outcome : Outcome K T α} {output : Output K T}
    {manager : SessionManager K T} {rng : Rng K}
    (h : silent outcome = (.ok output, manager, rng)) : output = .none := by
  obtain ⟨result, manager', rng'⟩ := outcome
  cases result with
  | error e => cases h
  | ok value =>
      cases h
      rfl

/-- A call prepares deliveries, receives, or hands nothing to the caller. -/
theorem perform_cases (manager : SessionManager K T) (rng : Rng K) (operation : Operation K T) :
    (∃ outcome, PrepareCall manager rng operation outcome ∧
      manager.perform rng operation = prepared outcome) ∨
    (∃ senderOwner envelope now, manager.perform rng operation =
      delivered (manager.receive senderOwner envelope now rng)) ∨
    ∀ output manager' rng', manager.perform rng operation = (.ok output, manager', rng') →
      output = .none := by
  cases operation with
  | prepareSend recipientOwner payload now => exact Or.inl ⟨_, .explicit, rfl⟩
  | prepareRemoteSend recipientOwner payload now => exact Or.inl ⟨_, .explicit, rfl⟩
  | prepareRemoteSendToDevices recipientOwner devices payload now =>
      exact Or.inl ⟨_, .explicit, rfl⟩
  | prepareLocalSiblingSend payload now => exact Or.inl ⟨_, .explicit, rfl⟩
  | prepareLocalSiblingSendToDevices devices payload now => exact Or.inl ⟨_, .explicit, rfl⟩
  | prepareLocalSiblingSendReusingSessions payload now => exact Or.inl ⟨_, .explicit, rfl⟩
  | prepareLocalSiblingSendRefreshingOneWaySessions payload now =>
      exact Or.inl ⟨_, .refreshing, rfl⟩
  | prepareLocalSiblingSendReusingAllSessions payload now => exact Or.inl ⟨_, .reusingAll, rfl⟩
  | receive senderOwner envelope now => exact Or.inr (Or.inl ⟨senderOwner, envelope, now, rfl⟩)
  | ensureLocalInvite now => exact Or.inr (Or.inr (fun _ _ _ h => silent_output h))
  | observePeerAppKeysEvent event observedAt =>
      exact Or.inr (Or.inr (fun _ _ _ h => silent_output h))
  | observeDeviceInvite owner invite => exact Or.inr (Or.inr (fun _ _ _ h => silent_output h))
  | observeInviteResponse envelope now =>
      exact Or.inr (Or.inr (fun _ _ _ h => silent_output h))
  | replaceLocalInvite invite => exact Or.inr (Or.inr (fun _ _ _ h => by cases h; rfl))
  | applyLocalRoster roster => exact Or.inr (Or.inr (fun _ _ _ h => by cases h; rfl))
  | replaceLocalRoster roster => exact Or.inr (Or.inr (fun _ _ _ h => by cases h; rfl))
  | observePeerRoster owner roster => exact Or.inr (Or.inr (fun _ _ _ h => by cases h; rfl))
  | pruneStale => exact Or.inr (Or.inr (fun _ _ _ h => by cases h; rfl))
  | deleteUser owner => exact Or.inr (Or.inr (fun _ _ _ h => by cases h; rfl))
  | importSessionState owner device state now =>
      exact Or.inr (Or.inr (fun _ _ _ h => by cases h; rfl))
  | importClaimedSessionState claimedOwner device state now =>
      exact Or.inr (Or.inr (fun _ _ _ h => by cases h; rfl))

/-- A delivery handed out comes from one of the two functions. -/
theorem perform_delivery {manager manager' : SessionManager K T} {rng rng' : Rng K}
    {operation : Operation K T} {output : Output K T} {delivery : Delivery K T}
    (h : manager.perform rng operation = (.ok output, manager', rng'))
    (hmem : delivery ∈ output.deliveries) :
    ∃ send, PrepareCall manager rng operation (.ok send, manager', rng') ∧
      delivery ∈ send.deliveries := by
  obtain ⟨outcome, hcall, hperform⟩ | ⟨owner, envelope, now, hperform⟩ | hnone :=
    manager.perform_cases rng operation
  · rw [hperform] at h
    obtain ⟨result, manager₁, rng₁⟩ := outcome
    cases result with
    | error e => cases h
    | ok send =>
        cases h
        exact ⟨send, hcall, hmem⟩
  · rw [hperform] at h
    generalize manager.receive owner envelope now rng = outcome at h
    obtain ⟨result, manager₁, rng₁⟩ := outcome
    cases result with
    | error e => cases h
    | ok received =>
        cases h
        cases hmem
  · rw [hnone output manager' rng' h] at hmem
    cases hmem

/-- A message handed out comes from `receive`. -/
theorem perform_received {manager manager' : SessionManager K T} {rng rng' : Rng K}
    {operation : Operation K T} {output : Output K T} {message : ReceivedMessage K T}
    (h : manager.perform rng operation = (.ok output, manager', rng'))
    (hsome : output.received = some message) :
    ∃ senderOwner envelope now,
      manager.receive senderOwner envelope now rng = (.ok (some message), manager', rng') := by
  obtain ⟨outcome, hcall, hperform⟩ | ⟨owner, envelope, now, hperform⟩ | hnone :=
    manager.perform_cases rng operation
  · rw [hperform] at h
    obtain ⟨result, manager₁, rng₁⟩ := outcome
    cases result with
    | error e => cases h
    | ok send =>
        cases h
        cases hsome
  · rw [hperform] at h
    refine ⟨owner, envelope, now, ?_⟩
    generalize manager.receive owner envelope now rng = outcome at h
    obtain ⟨result, manager₁, rng₁⟩ := outcome
    cases result with
    | error e => cases h
    | ok received =>
        cases h
        cases hsome
        rfl
  · rw [hnone output manager' rng' h] at hsome
    cases hsome

end SessionManager

namespace RecordInvariant

variable {P : DevicePubkey K → DeviceRecord K T → Prop} (hP : RecordInvariant P)

include hP

section Sending

variable [Primitives K T] [InvitePrimitives K T]

omit [InvitePrimitives K T] in
theorem delivered {record record' : DeviceRecord K T} {owner : OwnerPubkey K}
    {device device' : DevicePubkey K} {payload : T} {now : UnixSeconds} {refresh : Bool}
    {delivery : Delivery K T} (hrecord : P device' record)
    (h : record.Delivered owner device payload now refresh delivery record') :
    P device' record' := by
  cases h with
  | active _ _ => exact hP.edit (hP.activate _ hrecord) rfl rfl rfl
  | inactive _ _ =>
      refine hP.edit (hP.upsert _ _ (hP.drop hrecord ?_)) rfl rfl rfl
      exact List.eraseIdx_sublist _ _
  | bootstrap _ _ _ => exact hP.upsert _ _ (hP.edit hrecord rfl rfl rfl)

theorem all_prepareDeviceDelivery {manager : SessionManager K T} (hmanager : manager.All P)
    (owner : OwnerPubkey K) (device : DevicePubkey K) (payload : T) (now : UnixSeconds)
    (refresh : Bool) (rng : Rng K) :
    (manager.prepareDeviceDelivery owner device payload now refresh rng).2.1.All P := by
  have hrecord := hP.deviceRecord hmanager owner device now
  generalize hcall : manager.prepareDeviceDelivery owner device payload now refresh rng = outcome
  obtain ⟨result, manager', rng'⟩ := outcome
  obtain ⟨rfl, -⟩ | ⟨delivery, response, record', -, rfl, -, -, hdelivered⟩ :=
    SessionManager.prepareDeviceDelivery_cases hcall
  · exact all_setDevice hmanager hrecord
  · exact all_setDevice hmanager (hP.delivered hrecord hdelivered)

omit [InvitePrimitives K T] in
theorem deliverInactive (owner : OwnerPubkey K) {device : DevicePubkey K}
    (device' : DevicePubkey K) (payload : T) (now : UnixSeconds) (sessions : List (Session K))
    (deliveries : List (Delivery K T)) {record : DeviceRecord K T} (rng : Rng K)
    (hrecord : P device record) :
    P device (DeviceRecord.deliverInactive owner device' payload now sessions deliveries record
      rng).2.1 := by
  induction sessions generalizing deliveries record rng with
  | nil => exact hrecord
  | cons session rest ih =>
      unfold DeviceRecord.deliverInactive
      split
      · split
        · exact hrecord
        · exact ih _ _ (hP.upsert _ _ hrecord)
      · exact ih _ _ (hP.upsert _ _ hrecord)

omit [InvitePrimitives K T] in
theorem deliverAll {record : DeviceRecord K T} (owner : OwnerPubkey K) {device : DevicePubkey K}
    (device' : DevicePubkey K) (payload : T) (now : UnixSeconds) (rng : Rng K)
    (hrecord : P device record) :
    P device (record.deliverAll owner device' payload now rng).2.1 := by
  have hfinish : ∀ outcome : Except Error (List (Delivery K T)) × DeviceRecord K T × Rng K,
      P device outcome.2.1 → P device (DeviceRecord.deliverAll.finish now outcome).2.1 := by
    rintro ⟨result, record', rng'⟩ h
    cases result with
    | error e => exact h
    | ok deliveries =>
        cases deliveries with
        | nil => exact h
        | cons delivery rest => exact hP.edit h rfl rfl rfl
  unfold DeviceRecord.deliverAll
  split
  · exact hfinish _ (hP.deliverInactive owner device' payload now _ _ _
      (hP.drop hrecord (List.nil_sublist _)))
  · split
    · exact hrecord
    · exact hfinish _ (hP.deliverInactive owner device' payload now _ _ _
        (hP.drop (hP.activate _ hrecord) (List.nil_sublist _)))

theorem all_prepareTarget {manager : SessionManager K T} (hmanager : manager.All P)
    (payload : T) (now : UnixSeconds) (refresh : Bool) (target : TargetDevice K)
    (collected : SessionManager.Collected K T) (rng : Rng K) :
    (SessionManager.prepareTarget payload now refresh manager target collected rng).2.1.All P := by
  rw [SessionManager.prepareTarget_manager]
  exact hP.all_prepareDeviceDelivery hmanager _ _ payload now refresh rng

theorem all_prepareTargetAllSessions {manager : SessionManager K T} (hmanager : manager.All P)
    (payload : T) (now : UnixSeconds) (target : TargetDevice K)
    (collected : SessionManager.Collected K T) (rng : Rng K) :
    (SessionManager.prepareTargetAllSessions payload now manager target collected
      rng).2.1.All P := by
  have hrecord := hP.deviceRecord hmanager target.ownerPubkey target.devicePubkey now
  have hdelivery : (manager.prepareDeviceDeliveriesForAllSendSessions target.ownerPubkey
      target.devicePubkey payload now rng).2.1.All P := by
    unfold SessionManager.prepareDeviceDeliveriesForAllSendSessions
    dsimp only
    split
    · exact all_setDevice hmanager hrecord
    · exact all_setDevice hmanager (hP.deliverAll _ _ _ _ _ hrecord)
  unfold SessionManager.prepareTargetAllSessions
  split
  · rename_i hcall
    rw [hcall] at hdelivery
    exact hdelivery
  · rename_i hcall
    rw [hcall] at hdelivery
    exact hP.all_prepareTarget hdelivery _ _ _ _ _ _
  · rename_i hcall
    rw [hcall] at hdelivery
    exact hdelivery

theorem all_prepareExplicitSend {manager : SessionManager K T} (hmanager : manager.All P)
    (recipientOwner : OwnerPubkey K) (targets : List (TargetDevice K)) (payload : T)
    (relayGaps : List (RelayGap K)) (refresh : Bool) (now : UnixSeconds) (rng : Rng K) :
    (manager.prepareExplicitSend recipientOwner targets payload relayGaps refresh now
      rng).2.1.All P := by
  rw [SessionManager.prepareExplicitSend_manager]
  apply SessionManager.fanOut_manager _ _ _ _ hmanager
  intro target collected manager rng hmanager
  exact hP.all_prepareTarget hmanager payload now refresh target collected rng

theorem all_prepareLocalSiblingSendReusingAllSessions {manager : SessionManager K T}
    (hmanager : manager.All P) (payload : T) (now : UnixSeconds) (rng : Rng K) :
    (manager.prepareLocalSiblingSendReusingAllSessions payload now rng).2.1.All P := by
  rw [SessionManager.prepareLocalSiblingSendReusingAllSessions_manager]
  apply SessionManager.fanOut_manager _ _ _ _ hmanager
  intro target collected manager rng hmanager
  exact hP.all_prepareTargetAllSessions hmanager payload now target collected rng

end Sending

section Receiving

variable [Primitives K T]

theorem receive {record record' : DeviceRecord K T} {device : DevicePubkey K}
    {envelope : MessageEnvelope K T} {now : UnixSeconds} {firstError firstError' : Option Error}
    {rng rng' : Rng K} {payload : T} (hrecord : P device record)
    (h : record.receive envelope now firstError rng =
      (some (payload, record'), firstError', rng')) : P device record' := by
  unfold DeviceRecord.receive at h
  split at h
  · cases h
    exact hP.edit (hP.activate _ hrecord) rfl rfl rfl
  · split at h
    · cases h
    · split at h
      · cases h
      · cases h
        refine hP.edit (hP.promote _ (hP.drop hrecord ?_)) rfl rfl rfl
        exact List.eraseIdx_sublist _ _

theorem receiveFrom {owner : OwnerPubkey K} (authorizedDevices : List (DevicePubkey K))
    (envelope : MessageEnvelope K T) (now : UnixSeconds) (devices : List (DevicePubkey K))
    (firstError : Option Error) {user : UserRecord K T} (rng : Rng K) {owner' : OwnerPubkey K}
    (huser : user.All P owner) :
    (SessionManager.receiveFrom owner' authorizedDevices envelope now devices firstError user
      rng).2.1.All P owner := by
  induction devices generalizing firstError rng with
  | nil =>
      unfold SessionManager.receiveFrom
      split
      · exact huser
      · exact huser
  | cons device rest ih =>
      unfold SessionManager.receiveFrom
      cases hget : user.devices.get? device with
      | none => exact ih _ _
      | some record =>
          dsimp only
          split
          · exact ih _ _
          · split
            · rename_i hreceive
              exact all_userSetDevice huser (hP.receive (huser.2 device record hget) hreceive)
            · exact ih _ _

theorem all_receive {manager : SessionManager K T} (hmanager : manager.All P)
    (senderOwner : OwnerPubkey K) (envelope : MessageEnvelope K T) (now : UnixSeconds)
    (rng : Rng K) : (manager.receive senderOwner envelope now rng).2.1.All P := by
  unfold SessionManager.receive
  cases hget : manager.users.get? senderOwner with
  | none => exact hmanager
  | some user =>
      exact all_setUser hmanager (hP.receiveFrom _ _ _ _ _ _ (hmanager senderOwner user hget))

end Receiving

section Rosters

variable [Primitives K T]

theorem all_applyRosterForOwnerInner {manager : SessionManager K T} (hmanager : manager.All P)
    (owner : OwnerPubkey K) (roster : DeviceRoster K) (replaceExisting : Bool) :
    (manager.applyRosterForOwnerInner owner roster replaceExisting).2.All P := by
  unfold SessionManager.applyRosterForOwnerInner
  dsimp only
  apply hP.all_recompute
  apply hP.all_reconcile
  apply hP.all_recompute
  apply all_setUser hmanager
  exact all_userRecord hmanager owner

theorem all_observePublicInvite {manager : SessionManager K T} (hmanager : manager.All P)
    (owner : OwnerPubkey K) (invite : Invite K T) :
    (manager.observePublicInvite owner invite).2.All P := by
  unfold SessionManager.observePublicInvite
  split
  · exact hmanager
  · exact all_setDevice hmanager
      (hP.edit (hP.deviceRecord hmanager owner _ _) rfl rfl rfl)

theorem all_storeClaimedSession {manager : SessionManager K T} (hmanager : manager.All P)
    (claimedOwner : OwnerPubkey K) (device : DevicePubkey K)
    (session : Session K) (now : UnixSeconds) :
    (manager.storeClaimedSession claimedOwner device session now).2.All P := by
  unfold SessionManager.storeClaimedSession
  dsimp only
  apply hP.all_recompute
  apply all_setUser hmanager
  have huser := all_userRecord hmanager (manager.claimTarget claimedOwner device)
  split
  · exact all_userSetDevice huser (hP.upsert session now
      (hP.edit (hP.userDeviceRecord huser device now) rfl rfl rfl))
  · exact all_userSetDevice huser (hP.upsert session now
      (hP.edit (hP.userDeviceRecord huser device now) rfl rfl rfl))

omit hP [Primitives K T] in
theorem all_pruneStale {manager : SessionManager K T} (hmanager : manager.All P) :
    manager.pruneStale.2.All P := by
  intro owner user hget
  unfold SessionManager.pruneStale at hget
  obtain ⟨hget, -⟩ := SortedMap.mem_filter.mp hget
  rw [SortedMap.get?_mapValues] at hget
  obtain ⟨stored, hstored, rfl⟩ := Option.map_eq_some_iff.mp hget
  obtain ⟨howner, hrecords⟩ := hmanager owner stored hstored
  exact ⟨howner, fun device record h => hrecords device record (SortedMap.mem_filter.mp h).1⟩

omit hP [Primitives K T] in
theorem all_deleteUser {manager : SessionManager K T} (hmanager : manager.All P)
    (owner : OwnerPubkey K) : (manager.deleteUser owner).All P := by
  unfold SessionManager.deleteUser
  split
  · intro owner' user hget
    rw [SortedMap.get?_erase] at hget
    split at hget
    · cases hget
    · exact hmanager owner' user hget
  · exact hmanager

end Rosters

section Calls

variable [DecidableEq T] [Primitives K T] [EventPrimitives K] [InvitePrimitives K T]

theorem preserved : SessionManager.Preserved (SessionManager.All P) where
  withInvite manager invite hmanager := fun owner user hget => hmanager owner user hget
  observePublicInvite manager owner invite hmanager :=
    hP.all_observePublicInvite hmanager owner invite
  applyRoster manager owner roster replaceExisting hmanager :=
    hP.all_applyRosterForOwnerInner hmanager owner roster replaceExisting
  observePeerAppKeysEvent manager event observedAt hmanager := by
    unfold SessionManager.observePeerAppKeysEvent
    split
    · exact hmanager
    · exact hmanager
    · rename_i index hingest
      have hindex : SessionManager.All P { manager with verifiedPeerAppKeys := index } :=
        fun owner user hget => hmanager owner user hget
      dsimp only
      split
      · exact hindex
      · exact hP.all_applyRosterForOwnerInner hindex _ _ false
  storeClaimedSession manager claimedOwner device session now hmanager :=
    hP.all_storeClaimedSession hmanager claimedOwner device session now
  prepareExplicitSend manager recipientOwner targets payload relayGaps refresh now rng hmanager :=
    hP.all_prepareExplicitSend hmanager recipientOwner targets payload relayGaps refresh now rng
  prepareReusingAllSessions manager payload now rng hmanager :=
    hP.all_prepareLocalSiblingSendReusingAllSessions hmanager payload now rng
  receive manager senderOwner envelope now rng hmanager :=
    hP.all_receive hmanager senderOwner envelope now rng
  pruneStale manager hmanager := all_pruneStale hmanager
  deleteUser manager owner hmanager := all_deleteUser hmanager owner

end Calls

omit hP in
theorem all_new [Primitives K T] {owner : OwnerPubkey K} {secret : K}
    {manager : SessionManager K T} (h : SessionManager.new owner secret = .ok manager) :
    manager.All P := by
  obtain ⟨device, -, hmanager⟩ := except_bind_eq_ok.mp h
  cases hmanager
  intro owner user hget
  cases hget

end RecordInvariant

end NostrDoubleRatchet
