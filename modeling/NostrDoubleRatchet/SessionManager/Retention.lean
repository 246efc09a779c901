import NostrDoubleRatchet.SessionManager.Runs
import NostrDoubleRatchet.Symbolic

/-!
When a record keeps a session it is given. A new session of higher priority becomes
the active one; any other goes to the end of the inactive sessions, and a full list is
cut at that end.
-/

namespace NostrDoubleRatchet

variable {K T : Type} [LinearOrder K]

namespace DeviceRecord

/-- The record has a place for a session of this priority. -/
def RoomFor (record : DeviceRecord K T) (priority : SessionPriority) : Prop :=
  (∀ active, record.activeSession = some active → sessionPriority active < priority) ∨
    record.compactDuplicateSessions.inactiveSessions.length < MAX_INACTIVE_SESSIONS

/-- The record keeps the session when it is given it. -/
def Keeps (record : DeviceRecord K T) (session : Session K) : Prop :=
  record.containsState session.state = true ∨ record.RoomFor (sessionPriority session)

theorem containsState_iff {record : DeviceRecord K T} {state : SessionState K} :
    record.containsState state = true ↔
      (∃ session, record.activeSession = some session ∧ session.state = state) ∨
        ∃ session ∈ record.inactiveSessions, session.state = state := by
  unfold containsState
  rw [Bool.or_eq_true, Option.any_eq_true, List.any_eq_true]
  simp

/-! Compaction drops only states that are still there. -/

theorem mem_compactSessions {activeState : Option (SessionState K)}
    {seen : List (SessionState K)} {sessions : List (Session K)} {state : SessionState K} :
    (∃ session ∈ compactSessions activeState seen sessions, session.state = state) ↔
      (∃ session ∈ sessions, session.state = state) ∧ activeState ≠ some state ∧
        state ∉ seen := by
  induction sessions generalizing seen with
  | nil => simp [compactSessions]
  | cons first rest ih =>
      unfold compactSessions
      split
      · rename_i hdup
        rw [ih]
        by_cases hfirst : first.state = state
        · subst hfirst
          constructor
          · rintro ⟨-, hactive, hseen⟩
            exact absurd hdup (not_or.mpr ⟨hactive, hseen⟩)
          · rintro ⟨-, hactive, hseen⟩
            exact absurd hdup (not_or.mpr ⟨hactive, hseen⟩)
        · simp [hfirst]
      · rename_i hdup
        obtain ⟨hactive, hseen⟩ := not_or.mp hdup
        simp only [List.mem_cons, exists_eq_or_imp]
        rw [ih]
        by_cases hfirst : first.state = state
        · subst hfirst
          simp [hactive, hseen]
        · simp [hfirst, Ne.symm hfirst]

theorem length_compactSessions_le (activeState : Option (SessionState K))
    (seen : List (SessionState K)) (sessions : List (Session K)) :
    (compactSessions activeState seen sessions).length ≤ sessions.length := by
  induction sessions generalizing seen with
  | nil => exact le_refl _
  | cons first rest ih =>
      unfold compactSessions
      split
      · exact (ih seen).trans (Nat.le_succ _)
      · exact Nat.succ_le_succ (ih _)

/-- A new state at the end survives compaction at the end. -/
theorem compactSessions_append_new {activeState : Option (SessionState K)}
    {seen : List (SessionState K)} {sessions : List (Session K)} {session : Session K}
    (hactive : activeState ≠ some session.state) (hseen : session.state ∉ seen)
    (hsessions : ∀ other ∈ sessions, other.state ≠ session.state) :
    compactSessions activeState seen (sessions ++ [session]) =
      compactSessions activeState seen sessions ++ [session] := by
  induction sessions generalizing seen with
  | nil => simp [compactSessions, hactive, hseen]
  | cons first rest ih =>
      have hfirst : session.state ≠ first.state := (hsessions first List.mem_cons_self).symm
      have hrest : ∀ other ∈ rest, other.state ≠ session.state :=
        fun other hmem => hsessions other (List.mem_cons_of_mem _ hmem)
      rw [List.cons_append]
      unfold compactSessions
      split
      · exact ih hseen hrest
      · rw [ih (by simp [hseen, hfirst]) hrest, List.cons_append]

theorem containsState_compact (record : DeviceRecord K T) (state : SessionState K) :
    record.compactDuplicateSessions.containsState state = record.containsState state := by
  rw [Bool.eq_iff_iff, containsState_iff, containsState_iff]
  unfold compactDuplicateSessions
  simp only [mem_compactSessions, List.not_mem_nil, not_false_eq_true, and_true]
  by_cases hactive : ∃ session, record.activeSession = some session ∧ session.state = state
  · simp [hactive]
  · have hne : record.activeSession.map Session.state ≠ some state := by
      simpa using hactive
    simp only [hactive, hne, false_or, ne_eq, not_false_eq_true, and_true]

theorem activeSession_upsertSession {record : DeviceRecord K T} {session : Session K}
    (now : UnixSeconds) (hnew : record.containsState session.state = false)
    (hactive : ∀ active, record.activeSession = some active →
      sessionPriority active < sessionPriority session) :
    (record.upsertSession session now).activeSession = some session := by
  rw [upsertSession, hnew, if_neg Bool.false_ne_true]
  change (record.placeSession session).activeSession = some session
  unfold placeSession
  cases hold : record.activeSession with
  | none => rfl
  | some old =>
      dsimp only
      rw [if_neg (not_le.mpr (hactive old hold))]

theorem upsertSession_inactive {record : DeviceRecord K T} {session old : Session K}
    (now : UnixSeconds) (hnew : record.containsState session.state = false)
    (hold : record.activeSession = some old)
    (hpriority : sessionPriority session ≤ sessionPriority old) :
    (record.upsertSession session now).activeSession = some old ∧
      (record.upsertSession session now).inactiveSessions =
        (record.compactDuplicateSessions.inactiveSessions ++ [session]).take
          MAX_INACTIVE_SESSIONS := by
  have hnone : ¬ record.containsState session.state = true := by simp [hnew]
  rw [containsState_iff, not_or] at hnone
  have hactive : record.activeSession.map Session.state ≠ some session.state := by
    intro h
    obtain ⟨active, hactive, hstate⟩ := Option.map_eq_some_iff.mp h
    exact hnone.1 ⟨active, hactive, hstate⟩
  have happend := compactSessions_append_new hactive (List.not_mem_nil)
    (fun other hmem hstate => hnone.2 ⟨other, hmem, hstate⟩)
  rw [upsertSession, hnew, if_neg Bool.false_ne_true]
  unfold placeSession
  rw [hold] at happend ⊢
  dsimp only
  rw [if_pos hpriority]
  unfold truncateInactive compactDuplicateSessions
  simp only [happend, hold, and_self]

/-- Exactly when a record that is given a session has it afterwards. -/
theorem containsState_upsertSession (record : DeviceRecord K T) (session : Session K)
    (now : UnixSeconds) :
    (record.upsertSession session now).containsState session.state = true ↔
      record.Keeps session := by
  unfold Keeps RoomFor
  cases hnew : record.containsState session.state with
  | true =>
      simp only [true_or, iff_true]
      rw [upsertSession, hnew, if_pos rfl]
      exact (record.containsState_compact session.state).trans hnew
  | false =>
      simp only [Bool.false_eq_true, false_or]
      by_cases hactive : ∀ active, record.activeSession = some active →
          sessionPriority active < sessionPriority session
      · have hstored := activeSession_upsertSession now hnew hactive
        exact iff_of_true (containsState_iff.mpr (Or.inl ⟨session, hstored, rfl⟩))
          (Or.inl hactive)
      · obtain ⟨old, hold, hpriority⟩ : ∃ old, record.activeSession = some old ∧
            ¬ sessionPriority old < sessionPriority session := by
          simpa using hactive
        obtain ⟨hstays, hlist⟩ := upsertSession_inactive now hnew hold (not_lt.mp hpriority)
        have hnone : ¬ record.compactDuplicateSessions.containsState session.state = true := by
          simp [containsState_compact, hnew]
        rw [containsState_iff, not_or] at hnone
        have holdState : old.state ≠ session.state :=
          fun h => hnone.1 ⟨old, hold, h⟩
        rw [containsState_iff, hstays, hlist]
        simp only [hactive, false_or, Option.some.injEq, exists_eq_left', holdState]
        constructor
        · rintro ⟨other, hmem, hstate⟩
          by_contra hfull
          rw [List.take_append_of_le_length (not_lt.mp hfull)] at hmem
          exact hnone.2 ⟨other, List.mem_of_mem_take hmem, hstate⟩
        · intro hroom
          refine ⟨session, ?_, rfl⟩
          have hlength : (record.compactDuplicateSessions.inactiveSessions ++ [session]).length ≤
              MAX_INACTIVE_SESSIONS := by
            rw [List.length_append]
            exact hroom
          rw [List.take_of_length_le hlength]
          exact List.mem_append_right _ List.mem_cons_self

theorem containsState_congr {record record' : DeviceRecord K T}
    (hactive : record'.activeSession = record.activeSession)
    (hinactive : record'.inactiveSessions = record.inactiveSessions) (state : SessionState K) :
    record'.containsState state = record.containsState state := by
  rw [containsState, containsState, hactive, hinactive]

theorem keeps_congr {record record' : DeviceRecord K T}
    (hactive : record'.activeSession = record.activeSession)
    (hinactive : record'.inactiveSessions = record.inactiveSessions) (session : Session K) :
    record'.Keeps session ↔ record.Keeps session := by
  unfold Keeps RoomFor compactDuplicateSessions
  rw [containsState_congr hactive hinactive, hactive, hinactive]

/-- A record whose list is not full keeps a session, and everything it had. -/
theorem roomFor_of_length_lt {record : DeviceRecord K T} (priority : SessionPriority)
    (h : record.inactiveSessions.length < MAX_INACTIVE_SESSIONS) : record.RoomFor priority :=
  Or.inr ((length_compactSessions_le _ _ _).trans_lt h)

theorem containsState_placeSession {record : DeviceRecord K T} {session : Session K}
    {state : SessionState K} (h : record.containsState state = true) :
    (record.placeSession session).containsState state = true := by
  rw [containsState_iff] at h ⊢
  unfold placeSession
  cases hold : record.activeSession with
  | none =>
      rw [hold] at h
      simp_all
  | some old =>
      rw [hold] at h
      dsimp only
      split
      · simp only [List.mem_append]
        grind
      · simp only [List.mem_append]
        grind

theorem length_placeSession_le (record : DeviceRecord K T) (session : Session K) :
    (record.placeSession session).inactiveSessions.length ≤
      record.inactiveSessions.length + 1 := by
  unfold placeSession
  cases record.activeSession with
  | none => exact Nat.le_succ _
  | some old =>
      dsimp only
      split
      · simp
      · simp

theorem containsState_upsertSession_of_containsState {record : DeviceRecord K T}
    {session : Session K} {state : SessionState K} (now : UnixSeconds)
    (hlength : record.inactiveSessions.length < MAX_INACTIVE_SESSIONS)
    (h : record.containsState state = true) :
    (record.upsertSession session now).containsState state = true := by
  unfold upsertSession
  split
  · exact (record.containsState_compact state).trans h
  · have hfits : (record.placeSession session).compactDuplicateSessions.inactiveSessions.length ≤
        MAX_INACTIVE_SESSIONS :=
      (length_compactSessions_le _ _ _).trans
        ((record.length_placeSession_le session).trans hlength)
    have hkept : (record.placeSession session).compactDuplicateSessions.containsState state =
        true :=
      (containsState_compact _ state).trans (containsState_placeSession h)
    rw [← hkept]
    apply containsState_congr
    · rfl
    · exact List.take_of_length_le hfits

theorem length_upsertSession_le (record : DeviceRecord K T) (session : Session K)
    (now : UnixSeconds) :
    (record.upsertSession session now).inactiveSessions.length ≤
      record.inactiveSessions.length + 1 := by
  unfold upsertSession
  split
  · exact (length_compactSessions_le _ _ _).trans (Nat.le_succ _)
  · exact (List.length_take_le' _ _).trans
      ((length_compactSessions_le _ _ _).trans (record.length_placeSession_le session))

/-! The two ways of priority. -/

/-- The priority of a session made from an invite, once it has sent. -/
def bootstrapPriority : SessionPriority := toLex (2, toLex (0, 1))

theorem sessionPriority_of_initiated {session : Session K} (h : session.Initiated)
    (chainKey : K) : sessionPriority (session.advanced chainKey) = bootstrapPriority := by
  have hcan : (session.advanced chainKey).canSend = true := h.canSend
  have hreceive : (session.advanced chainKey).state.receivingChainKey = none :=
    h.receivingChainKey
  have hcurrent : (session.advanced chainKey).state.theirCurrentNostrPublicKey = none :=
    h.theirCurrentNostrPublicKey
  have hnumber : (session.advanced chainKey).state.receivingChainMessageNumber = 0 :=
    h.receivingChainMessageNumber
  have hsent : (session.advanced chainKey).state.sendingChainMessageNumber = 1 := by
    simp [Session.advanced, h.sendingChainMessageNumber, u32Succ]
  simp [sessionPriority, bootstrapPriority, hcan, hreceive, hcurrent, hnumber, hsent]

theorem sessionPriority_lt_bootstrap {session : Session K} (h : session.canSend = false) :
    sessionPriority session < bootstrapPriority := by
  unfold sessionPriority bootstrapPriority
  rw [Prod.Lex.lt_iff]
  left
  dsimp only
  rw [h]
  split
  · simp_all
  · simp_all
  · simp
  · simp

theorem bestInactiveSource_isSome (index : Nat) (sessions : List (Session K))
    (best : SendSessionSource × SessionPriority) :
    (bestInactiveSource index sessions (some best)).isSome = true := by
  induction sessions generalizing index best with
  | nil => rfl
  | cons session rest ih =>
      unfold bestInactiveSource
      split
      · exact ih _ _
      · exact ih _ _

/-- A record without a session to send on has no active one that can send. -/
theorem active_cannotSend {record : DeviceRecord K T} {active : Session K}
    (hnone : record.bestSendSessionSource = none) (hactive : record.activeSession = some active) :
    active.canSend = false := by
  cases hcan : active.canSend with
  | false => rfl
  | true =>
      have hsome := bestInactiveSource_isSome 0 record.inactiveSessions
        (.active, sessionPriority active)
      simp only [bestSendSessionSource, hactive, Option.filter_some, hcan, if_true,
        Option.map_some, Option.map_eq_none_iff] at hnone
      rw [hnone] at hsome
      cases hsome

end DeviceRecord

/-! Deliveries. -/

section Deliveries

variable [Primitives K T] [InvitePrimitives K T]

/-- The delivery was sent on a session whose state afterwards the record has. -/
def DeviceRecord.HasSenderOf (record : DeviceRecord K T) (delivery : Delivery K T) : Prop :=
  ∃ (session session' : Session K) (payload : T) (now : UnixSeconds) (rng rng' : Rng K),
    sendWithSession session payload now delivery.devicePubkey rng =
      (.ok (session', delivery.envelope), rng') ∧ record.containsState session'.state = true

omit [InvitePrimitives K T] in
theorem DeviceRecord.Delivered.hasSender {record record' : DeviceRecord K T}
    {owner : OwnerPubkey K} {device : DevicePubkey K} {payload : T} {now : UnixSeconds}
    {refresh : Bool} {delivery : Delivery K T}
    (h : record.Delivered owner device payload now refresh delivery record')
    (hlength : record.inactiveSessions.length ≤ MAX_INACTIVE_SESSIONS)
    (hroom : refresh = true → record.RoomFor bootstrapPriority) :
    record'.HasSenderOf delivery := by
  cases h with
  | @active session session' envelope rng rng' hactive hsend =>
      refine ⟨session, session', payload, now, rng, rng', hsend, ?_⟩
      exact DeviceRecord.containsState_iff.mpr (Or.inl ⟨session', rfl, rfl⟩)
  | @inactive index session session' envelope rng rng' hget hsend =>
      refine ⟨session, session', payload, now, rng, rng', hsend, ?_⟩
      have hindex : index < record.inactiveSessions.length :=
        (List.getElem?_eq_some_iff.mp hget).1
      refine (DeviceRecord.containsState_upsertSession _ session' now).mpr (Or.inr ?_)
      apply DeviceRecord.roomFor_of_length_lt
      rw [List.length_eraseIdx_of_lt hindex]
      omega
  | @bootstrap session session' envelope rng rng' hwhen hfresh hsend =>
      refine ⟨session, session', payload, now, rng, rng', hsend, ?_⟩
      obtain ⟨-, chainKey, rfl⟩ := sendWithSession_session hsend
      refine (DeviceRecord.containsState_upsertSession _ _ now).mpr (Or.inr ?_)
      rw [DeviceRecord.sessionPriority_of_initiated hfresh]
      rcases hwhen with hrefresh | hnone
      · exact hroom hrefresh
      · exact Or.inl (fun active hactive => DeviceRecord.sessionPriority_lt_bootstrap
          (DeviceRecord.active_cannotSend hnone hactive))

namespace DeviceRecord

omit [InvitePrimitives K T] in
theorem HasSenderOf.mono {record record' : DeviceRecord K T} {delivery : Delivery K T}
    (h : record.HasSenderOf delivery)
    (hkept : ∀ state, record.containsState state = true → record'.containsState state = true) :
    record'.HasSenderOf delivery := by
  obtain ⟨session, session', payload, now, rng, rng', hsend, hstate⟩ := h
  exact ⟨session, session', payload, now, rng, rng', hsend, hkept _ hstate⟩

omit [InvitePrimitives K T] in
/-- The inactive sessions are put back one by one, and all of them fit. -/
theorem deliverInactive_hasSender {owner : OwnerPubkey K} {device : DevicePubkey K} {payload : T}
    {now : UnixSeconds} {sessions : List (Session K)} {deliveries deliveries' : List (Delivery K T)}
    {record record' : DeviceRecord K T} {rng rng' : Rng K}
    (hlength : record.inactiveSessions.length + sessions.length ≤ MAX_INACTIVE_SESSIONS)
    (hsent : ∀ delivery ∈ deliveries, record.HasSenderOf delivery ∧
      delivery.ownerPubkey = owner ∧ delivery.devicePubkey = device)
    (h : deliverInactive owner device payload now sessions deliveries record rng =
      (.ok deliveries', record', rng')) :
    ∀ delivery ∈ deliveries', record'.HasSenderOf delivery ∧
      delivery.ownerPubkey = owner ∧ delivery.devicePubkey = device := by
  induction sessions generalizing deliveries record rng with
  | nil =>
      cases h
      exact hsent
  | cons session rest ih =>
      rw [List.length_cons] at hlength
      have hroom : record.inactiveSessions.length < MAX_INACTIVE_SESSIONS := by omega
      have hkept : ∀ (session : Session K) state, record.containsState state = true →
          (record.upsertSession session now).containsState state = true :=
        fun session state => containsState_upsertSession_of_containsState now hroom
      have hnext : ∀ session : Session K,
          (record.upsertSession session now).inactiveSessions.length + rest.length ≤
            MAX_INACTIVE_SESSIONS := by
        intro session
        have hgrow := record.length_upsertSession_le session now
        omega
      unfold deliverInactive at h
      split at h
      · split at h
        · cases h
        · rename_i session' envelope rng₁ hsend
          refine ih (hnext session') (fun delivery hmem => ?_) h
          rcases List.mem_append.mp hmem with hold | hnew
          · obtain ⟨hsender, hplace⟩ := hsent delivery hold
            exact ⟨hsender.mono (hkept session'), hplace⟩
          · obtain rfl := List.mem_singleton.mp hnew
            refine ⟨⟨session, session', payload, now, rng, rng₁, hsend, ?_⟩, rfl, rfl⟩
            exact (containsState_upsertSession record session' now).mpr
              (Or.inr (roomFor_of_length_lt _ hroom))
      · refine ih (hnext session) (fun delivery hmem => ?_) h
        obtain ⟨hsender, hplace⟩ := hsent delivery hmem
        exact ⟨hsender.mono (hkept session), hplace⟩

omit [InvitePrimitives K T] in
theorem deliverAll_hasSender {owner : OwnerPubkey K} {device : DevicePubkey K} {payload : T}
    {now : UnixSeconds} {deliveries : List (Delivery K T)} {record record' : DeviceRecord K T}
    {rng rng' : Rng K} (hlength : record.inactiveSessions.length ≤ MAX_INACTIVE_SESSIONS)
    (h : record.deliverAll owner device payload now rng = (.ok deliveries, record', rng')) :
    ∀ delivery ∈ deliveries, record'.HasSenderOf delivery ∧
      delivery.ownerPubkey = owner ∧ delivery.devicePubkey = device := by
  have hfinish : ∀ outcome, deliverAll.finish now outcome = (.ok deliveries, record', rng') →
      (∀ deliveries₁ record₁ rng₁, outcome = (.ok deliveries₁, record₁, rng₁) →
        ∀ delivery ∈ deliveries₁, record₁.HasSenderOf delivery ∧
          delivery.ownerPubkey = owner ∧ delivery.devicePubkey = device) →
      ∀ delivery ∈ deliveries, record'.HasSenderOf delivery ∧
        delivery.ownerPubkey = owner ∧ delivery.devicePubkey = device := by
    rintro ⟨result, record₁, rng₁⟩ hend hall
    cases result with
    | error e => cases hend
    | ok deliveries₁ =>
        have hsent := hall deliveries₁ record₁ rng₁ rfl
        cases deliveries₁ with
        | nil =>
            cases hend
            exact hsent
        | cons first rest =>
            cases hend
            exact hsent
  unfold deliverAll at h
  split at h
  · refine hfinish _ h (fun deliveries₁ record₁ rng₁ hcall => ?_)
    refine deliverInactive_hasSender ?_ (fun delivery hmem => by cases hmem) hcall
    simpa using hlength
  · rename_i active _
    split at h
    · cases h
    · rename_i session' envelope rng₂ hsend
      refine hfinish _ h (fun deliveries₁ record₁ rng₁ hcall => ?_)
      refine deliverInactive_hasSender ?_ (fun delivery hmem => ?_) hcall
      · simpa using hlength
      · obtain rfl := List.mem_singleton.mp hmem
        refine ⟨⟨active, session', payload, now, rng, rng₂, hsend, ?_⟩, rfl, rfl⟩
        exact containsState_iff.mpr (Or.inl ⟨session', rfl, rfl⟩)

end DeviceRecord

/-! A whole fan-out. -/

/-- The inactive sessions of every record are within the limit. -/
def DeviceRecord.Bounded (_ : DevicePubkey K) (record : DeviceRecord K T) : Prop :=
  record.inactiveSessions.length ≤ MAX_INACTIVE_SESSIONS

omit [Primitives K T] [InvitePrimitives K T] in
theorem bounded_recordInvariant : RecordInvariant (DeviceRecord.Bounded (K := K) (T := T)) where
  new _ _ := Nat.zero_le _
  edit h _ _ hinactive := by
    unfold DeviceRecord.Bounded at h ⊢
    rw [hinactive]
    exact h
  activate _ h := h
  drop h hsub := hsub.length_le.trans h
  upsert {device record} session now h := by
    unfold DeviceRecord.Bounded DeviceRecord.upsertSession
    split
    · exact (DeviceRecord.length_compactSessions_le _ _ _).trans h
    · exact List.length_take_le _ _
  promote session _ := List.length_take_le _ _

namespace SessionManager

/-- The session a delivery was sent on is stored under its owner and device. -/
def HasSenderOf (manager : SessionManager K T) (delivery : Delivery K T) : Prop :=
  ∃ record, manager.record? delivery.ownerPubkey delivery.devicePubkey = some record ∧
    record.HasSenderOf delivery

/-- What a fan-out keeps: the deliveries made so far have their sessions, and the
devices still to come are untouched. -/
structure Retaining (manager₀ : SessionManager K T) (targets : List (TargetDevice K))
    (collected : Collected K T) (manager : SessionManager K T) : Prop where
  nodup : targets.Nodup
  bounded : manager.All DeviceRecord.Bounded
  sameOutside : manager₀.SameOutside manager
  sent : ∀ delivery ∈ collected.deliveries, manager.HasSenderOf delivery ∧
    ⟨delivery.ownerPubkey, delivery.devicePubkey⟩ ∉ targets
  untouched : ∀ target ∈ targets, manager.record? target.ownerPubkey target.devicePubkey =
    manager₀.record? target.ownerPubkey target.devicePubkey

omit [InvitePrimitives K T] in
/-- One device served: its record is replaced, and the deliveries it was given have
their sessions in the new record. -/
theorem Retaining.serve {manager₀ manager : SessionManager K T} {target : TargetDevice K}
    {rest : List (TargetDevice K)} {collected collected' : Collected K T}
    {record : DeviceRecord K T} {deliveries : List (Delivery K T)}
    (h : Retaining manager₀ (target :: rest) collected manager)
    (hbounded : record.inactiveSessions.length ≤ MAX_INACTIVE_SESSIONS)
    (hcollected : collected'.deliveries = collected.deliveries ++ deliveries)
    (hsent : ∀ delivery ∈ deliveries, record.HasSenderOf delivery ∧
      delivery.ownerPubkey = target.ownerPubkey ∧
      delivery.devicePubkey = target.devicePubkey) :
    Retaining manager₀ rest collected'
      (manager.setDevice target.ownerPubkey target.devicePubkey record) := by
  obtain ⟨hfresh, hnodup⟩ := List.nodup_cons.mp h.nodup
  refine ⟨hnodup, RecordInvariant.all_setDevice h.bounded hbounded,
    h.sameOutside.trans (manager.sameOutside_setDevice _ _ _), fun delivery hmem => ?_,
    fun other hmem => ?_⟩
  · rw [hcollected] at hmem
    rcases List.mem_append.mp hmem with hold | hnew
    · obtain ⟨⟨stored, hstored, hsender⟩, hnot⟩ := h.sent delivery hold
      refine ⟨⟨stored, ?_, hsender⟩, fun hin => hnot (List.mem_cons_of_mem _ hin)⟩
      rw [record?_setDevice, if_neg, hstored]
      rintro ⟨howner, hdevice⟩
      apply hnot
      rw [← howner, ← hdevice]
      exact List.mem_cons_self
    · obtain ⟨hsender, howner, hdevice⟩ := hsent delivery hnew
      rw [HasSenderOf, howner, hdevice]
      exact ⟨⟨record, record?_setDevice_self _ _ _ _, hsender⟩, hfresh⟩
  · rw [record?_setDevice, if_neg, h.untouched other (List.mem_cons_of_mem _ hmem)]
    rintro ⟨howner, hdevice⟩
    apply hfresh
    cases target
    cases other
    cases howner
    cases hdevice
    exact hmem

omit [InvitePrimitives K T] in
theorem Retaining.bounded_deviceRecord {manager₀ manager : SessionManager K T}
    {targets : List (TargetDevice K)} {collected : Collected K T}
    (h : Retaining manager₀ targets collected manager) (owner : OwnerPubkey K)
    (device : DevicePubkey K) (now : UnixSeconds) :
    (manager.deviceRecord owner device now).inactiveSessions.length ≤ MAX_INACTIVE_SESSIONS :=
  bounded_recordInvariant.deviceRecord h.bounded owner device now

/-- Every sibling whose one-way session would be replaced has room for the new one. -/
def RefreshRoom (manager : SessionManager K T) : Prop :=
  ∀ device record, manager.record? manager.localOwnerPubkey device = some record →
    record.shouldRefresh manager.localIdentity manager.localOwnerPubkey device true = true →
    record.RoomFor DeviceRecord.bootstrapPriority

omit [InvitePrimitives K T] in
/-- A device whose session would be replaced is a sibling with a record. -/
theorem Retaining.roomFor {manager₀ manager : SessionManager K T} {target : TargetDevice K}
    {rest : List (TargetDevice K)} {collected : Collected K T} {now : UnixSeconds}
    {refresh : Bool} (hrefresh : refresh = true → manager₀.RefreshRoom)
    (h : Retaining manager₀ (target :: rest) collected manager)
    (hshould : (manager.deviceRecord target.ownerPubkey target.devicePubkey now).shouldRefresh
      manager.localIdentity target.ownerPubkey target.devicePubkey refresh = true) :
    (manager.deviceRecord target.ownerPubkey target.devicePubkey now).RoomFor
      DeviceRecord.bootstrapPriority := by
  have hidentity : manager.localIdentity = manager₀.localIdentity := by
    simp only [localIdentity, h.sameOutside.localOwnerPubkey, h.sameOutside.localDevicePubkey,
      h.sameOutside.localDeviceSecretKey]
  rw [deviceRecord_eq] at hshould ⊢
  cases hrecord : manager.record? target.ownerPubkey target.devicePubkey with
  | none => exact Or.inl (fun active hactive => by cases hactive)
  | some record =>
      rw [hrecord, Option.getD_some, hidentity] at hshould
      have hparts := hshould
      simp only [DeviceRecord.shouldRefresh, Bool.and_eq_true, decide_eq_true_eq] at hparts
      obtain ⟨⟨⟨⟨hflag, howner⟩, -⟩, -⟩, -⟩ := hparts
      subst hflag
      have howner' : target.ownerPubkey = manager₀.localOwnerPubkey := howner
      have hstored := h.untouched target List.mem_cons_self
      rw [hrecord, howner'] at hstored
      rw [howner'] at hshould
      exact hrefresh rfl target.devicePubkey record hstored.symm hshould

theorem Retaining.prepareTarget {manager₀ manager manager' : SessionManager K T}
    {target : TargetDevice K} {rest : List (TargetDevice K)}
    {collected collected' : Collected K T} {payload : T} {now : UnixSeconds} {refresh : Bool}
    {rng rng' : Rng K} (hrefresh : refresh = true → manager₀.RefreshRoom)
    (h : Retaining manager₀ (target :: rest) collected manager)
    (hcall : SessionManager.prepareTarget payload now refresh manager target collected rng =
      (.ok collected', manager', rng')) :
    Retaining manager₀ rest collected' manager' := by
  have hbounded : DeviceRecord.Bounded target.devicePubkey
      (manager.deviceRecord target.ownerPubkey target.devicePubkey now) :=
    h.bounded_deviceRecord target.ownerPubkey target.devicePubkey now
  unfold SessionManager.prepareTarget at hcall
  split at hcall
  · cases hcall
  · rename_i result manager₁ rng₁ hdelivery
    cases hcall
    obtain ⟨rfl, hnone⟩ | ⟨delivery, response, record', hresult, rfl, -, -, hdelivered⟩ :=
      prepareDeviceDelivery_cases hdelivery
    · cases result with
      | some value => exact absurd rfl (hnone value)
      | none =>
          exact h.serve hbounded (List.append_nil _).symm (fun delivery hmem => by cases hmem)
    · cases hresult
      refine h.serve (bounded_recordInvariant.delivered hbounded hdelivered) rfl
        (fun other hmem => ?_)
      obtain rfl := List.mem_singleton.mp hmem
      exact ⟨hdelivered.hasSender hbounded (h.roomFor hrefresh), hdelivered.address⟩

omit [InvitePrimitives K T] in
/-- A record may be replaced before its device is served, when nothing was sent to it
yet. -/
theorem Retaining.touch {manager₀ manager : SessionManager K T} {target : TargetDevice K}
    {rest : List (TargetDevice K)} {collected : Collected K T} {record : DeviceRecord K T}
    (h : Retaining manager₀ (target :: rest) collected manager)
    (hbounded : record.inactiveSessions.length ≤ MAX_INACTIVE_SESSIONS) :
    Retaining (manager.setDevice target.ownerPubkey target.devicePubkey record)
      (target :: rest) collected
      (manager.setDevice target.ownerPubkey target.devicePubkey record) := by
  refine ⟨h.nodup, RecordInvariant.all_setDevice h.bounded hbounded, SameOutside.refl _,
    fun delivery hmem => ?_, fun _ _ => rfl⟩
  obtain ⟨⟨stored, hstored, hsender⟩, hnot⟩ := h.sent delivery hmem
  refine ⟨⟨stored, ?_, hsender⟩, hnot⟩
  rw [record?_setDevice, if_neg, hstored]
  rintro ⟨howner, hdevice⟩
  apply hnot
  rw [← howner, ← hdevice]
  exact List.mem_cons_self

omit [InvitePrimitives K T] in
theorem Retaining.rebase {manager₀ manager manager' : SessionManager K T}
    {targets : List (TargetDevice K)} {collected : Collected K T}
    (h : Retaining manager targets collected manager') (hsame : manager₀.SameOutside manager)
    (hrecords : ∀ target ∈ targets, manager.record? target.ownerPubkey target.devicePubkey =
      manager₀.record? target.ownerPubkey target.devicePubkey) :
    Retaining manager₀ targets collected manager' :=
  ⟨h.nodup, h.bounded, hsame.trans h.sameOutside, h.sent,
    fun target hmem => (h.untouched target hmem).trans (hrecords target hmem)⟩

theorem Retaining.prepareTargetAllSessions {manager₀ manager manager' : SessionManager K T}
    {target : TargetDevice K} {rest : List (TargetDevice K)}
    {collected collected' : Collected K T} {payload : T} {now : UnixSeconds} {rng rng' : Rng K}
    (h : Retaining manager₀ (target :: rest) collected manager)
    (hcall : SessionManager.prepareTargetAllSessions payload now manager target collected rng =
      (.ok collected', manager', rng')) :
    Retaining manager₀ rest collected' manager' := by
  have hbounded : DeviceRecord.Bounded target.devicePubkey
      (manager.deviceRecord target.ownerPubkey target.devicePubkey now) :=
    h.bounded_deviceRecord target.ownerPubkey target.devicePubkey now
  have hfallback : ∀ {record : DeviceRecord K T} {rng₁ : Rng K},
      record.inactiveSessions.length ≤ MAX_INACTIVE_SESSIONS →
      SessionManager.prepareTarget payload now false
        (manager.setDevice target.ownerPubkey target.devicePubkey record) target collected rng₁ =
          (.ok collected', manager', rng') → Retaining manager₀ rest collected' manager' := by
    intro record rng₁ hrecord hprepare
    have hserved := (h.touch hrecord).prepareTarget (fun hfalse => by cases hfalse) hprepare
    have hbase : Retaining manager₀ rest collected
        (manager.setDevice target.ownerPubkey target.devicePubkey record) :=
      h.serve hrecord (List.append_nil _).symm (fun delivery hmem => by cases hmem)
    exact hserved.rebase hbase.sameOutside hbase.untouched
  unfold SessionManager.prepareTargetAllSessions at hcall
  split at hcall
  · cases hcall
  · rename_i manager₁ rng₁ hall
    obtain ⟨rfl, -⟩ | ⟨record', rfl, -, -, hdeliver⟩ :=
      prepareDeviceDeliveriesForAllSendSessions_cases hall
    · exact hfallback hbounded hcall
    · refine hfallback ?_ hcall
      have hafter := bounded_recordInvariant.deliverAll target.ownerPubkey target.devicePubkey
        payload now rng hbounded
      rw [hdeliver] at hafter
      exact hafter
  · rename_i deliveries manager₁ rng₁ hne hall
    cases hcall
    obtain ⟨rfl, hempty⟩ | ⟨record', rfl, -, -, hdeliver⟩ :=
      prepareDeviceDeliveriesForAllSendSessions_cases hall
    · cases hempty
      exact (hne rfl).elim
    · have hafter := bounded_recordInvariant.deliverAll target.ownerPubkey target.devicePubkey
        payload now rng hbounded
      rw [hdeliver] at hafter
      exact h.serve hafter rfl (DeviceRecord.deliverAll_hasSender hbounded hdeliver)

omit [InvitePrimitives K T] in
theorem retaining_start {manager : SessionManager K T}
    (hbounded : manager.All DeviceRecord.Bounded) (targets : List (TargetDevice K))
    (relayGaps : List (RelayGap K)) :
    Retaining manager (targetSet targets) ⟨[], [], relayGaps⟩ manager :=
  ⟨nodup_targetSet targets, hbounded, SameOutside.refl manager,
    (fun delivery hmem => by cases hmem), fun _ _ => rfl⟩

theorem prepareExplicitSend_hasSender {manager manager' : SessionManager K T}
    {recipientOwner : OwnerPubkey K} {targets : List (TargetDevice K)} {payload : T}
    {relayGaps : List (RelayGap K)} {refresh : Bool} {now : UnixSeconds} {rng rng' : Rng K}
    {send : PreparedSend K T} (hbounded : manager.All DeviceRecord.Bounded)
    (hrefresh : refresh = true → manager.RefreshRoom)
    (h : manager.prepareExplicitSend recipientOwner targets payload relayGaps refresh now rng =
      (.ok send, manager', rng')) :
    ∀ delivery ∈ send.deliveries, manager'.HasSenderOf delivery := by
  unfold prepareExplicitSend at h
  split at h
  · cases h
  · rename_i collected manager₁ rng₁ hfan
    cases h
    have hend := fanOut_ok (I := Retaining manager)
      (fun target rest collected manager rng collected' manager' rng' hI hcall =>
        hI.prepareTarget hrefresh hcall) (retaining_start hbounded targets relayGaps) hfan
    exact fun delivery hmem => (hend.sent delivery hmem).1

theorem prepareReusingAll_hasSender {manager manager' : SessionManager K T} {payload : T}
    {now : UnixSeconds} {rng rng' : Rng K} {send : PreparedSend K T}
    (hbounded : manager.All DeviceRecord.Bounded)
    (h : manager.prepareLocalSiblingSendReusingAllSessions payload now rng =
      (.ok send, manager', rng')) :
    ∀ delivery ∈ send.deliveries, manager'.HasSenderOf delivery := by
  unfold prepareLocalSiblingSendReusingAllSessions at h
  split at h
  · cases h
  · rename_i collected manager₁ rng₁ hfan
    cases h
    have hend := fanOut_ok (I := Retaining manager)
      (fun target rest collected manager rng collected' manager' rng' hI hcall =>
        hI.prepareTargetAllSessions hcall) (retaining_start hbounded _ []) hfan
    exact fun delivery hmem => (hend.sent delivery hmem).1

/-! Storing a claimed session. -/

omit [InvitePrimitives K T] in
/-- The session of an invite response or an import is stored exactly when the record
it goes to keeps it; recomputing the flags leaves sessions alone. -/
theorem storeClaimedSession_stores (manager : SessionManager K T) (claimedOwner : OwnerPubkey K)
    (device : DevicePubkey K) (session : Session K) (now : UnixSeconds) :
    (∃ record, (manager.storeClaimedSession claimedOwner device session now).2.record?
        (manager.claimTarget claimedOwner device) device = some record ∧
      record.containsState session.state = true) ↔
    (manager.deviceRecord (manager.claimTarget claimedOwner device) device now).Keeps session := by
  have hkeeps := (manager.claimRecord claimedOwner device now).containsState_upsertSession
    session now
  have hrecord : (manager.claimRecord claimedOwner device now).Keeps session ↔
      (manager.deviceRecord (manager.claimTarget claimedOwner device) device now).Keeps session := by
    apply DeviceRecord.keeps_congr <;> rfl
  rw [← hrecord, ← hkeeps, storeClaimedSession_manager, record?_recompute _ (get?_setUser_self _ _ _),
    record?_setUser, if_pos rfl]
  simp only [UserRecord.setDevice, SortedMap.get?_insert_self]
  apply UserRecord.exists_recomputedRecord_some
  intro record' hsame
  rw [DeviceRecord.containsState_congr hsame.activeSession hsame.inactiveSessions]

end SessionManager

end Deliveries

/-! The whole manager. -/

section Manager

variable [DecidableEq T] [Primitives K T] [EventPrimitives K] [InvitePrimitives K T]

/-- Exactly when a session given to a record stays there; exactly when an imported or
accepted session is stored; and, in every state a new manager can reach, that the
session behind each delivery is stored, as long as a refreshed sibling has room. -/
theorem SessionManager.sessions_retained :
    (∀ (record : DeviceRecord K T) (session : Session K) (now : UnixSeconds),
      (record.upsertSession session now).containsState session.state = true ↔
        record.Keeps session) ∧
    (∀ (manager : SessionManager K T) (claimedOwner : OwnerPubkey K) (device : DevicePubkey K)
      (session : Session K) (now : UnixSeconds),
      (∃ record, (manager.storeClaimedSession claimedOwner device session now).2.record?
          (manager.claimTarget claimedOwner device) device = some record ∧
        record.containsState session.state = true) ↔
      (manager.deviceRecord (manager.claimTarget claimedOwner device) device now).Keeps
        session) ∧
    ∀ (owner : OwnerPubkey K) (secret : K) (manager₀ : SessionManager K T) (rng₀ : Rng K)
      (operations : List (Operation K T)), SessionManager.new owner secret = .ok manager₀ →
      ∀ (rng rng' : Rng K) (operation : Operation K T) (output : Output K T)
        (manager' : SessionManager K T),
        (manager₀.run rng₀ operations).1.perform rng operation = (.ok output, manager', rng') →
        (∀ payload now,
          operation = .prepareLocalSiblingSendRefreshingOneWaySessions payload now →
          (manager₀.run rng₀ operations).1.RefreshRoom) →
        ∀ delivery ∈ output.deliveries, manager'.HasSenderOf delivery := by
  refine ⟨fun record session now => record.containsState_upsertSession session now,
    fun manager claimedOwner device session now =>
      manager.storeClaimedSession_stores claimedOwner device session now, ?_⟩
  intro owner secret manager₀ rng₀ operations hnew rng rng' operation output manager' hperform
    hroom delivery hmem
  have hbounded := bounded_recordInvariant.preserved.run (RecordInvariant.all_new hnew) rng₀
    operations
  obtain ⟨send, hcall, hmem⟩ := SessionManager.perform_delivery hperform hmem
  generalize houtcome : ((.ok send, manager', rng') : Outcome K T (PreparedSend K T)) = outcome
    at hcall
  cases hcall with
  | explicit =>
      exact SessionManager.prepareExplicitSend_hasSender hbounded (fun h => by cases h)
        houtcome.symm delivery hmem
  | refreshing =>
      exact SessionManager.prepareExplicitSend_hasSender hbounded (fun _ => hroom _ _ rfl)
        houtcome.symm delivery hmem
  | reusingAll =>
      exact SessionManager.prepareReusingAll_hasSender hbounded houtcome.symm delivery hmem

end Manager

namespace Symbolic

/-- A generator of numbered keys. -/
def numbered : Rng KeyTerm where
  secretKeys n := .secret (100 + n)
  words _ := 0
  aux _ := .secret 0
  nonces _ := .secret 0

def alice : OwnerPubkey KeyTerm := ⟨.point (.secret 0)⟩

def bobDevice : DevicePubkey KeyTerm := ⟨.point (.secret 2)⟩

def bob : OwnerPubkey KeyTerm := ownerPubkeyFromDevicePubkey bobDevice

/-- A session that can send, told apart by its root key. -/
def sendingState (n : Nat) : SessionState KeyTerm where
  metadataPrivacyVersion := METADATA_PRIVACY_VERSION
  rootKey := .secret n
  theirCurrentNostrPublicKey := none
  theirNextNostrPublicKey := some ⟨.point (.secret 3)⟩
  ourPreviousNostrKey := none
  ourCurrentNostrKey := some ⟨⟨.point (.secret 4)⟩, .secret 4⟩
  ourNextNostrKey := ⟨⟨.point (.secret 5)⟩, .secret 5⟩
  receivingChainKey := none
  sendingChainKey := some (.secret 6)
  sendingChainMessageNumber := 0
  receivingChainMessageNumber := 0
  previousSendingChainMessageCount := 0
  skippedKeys := SortedMap.empty

def emptyManager : SessionManager KeyTerm TextTerm where
  localOwnerPubkey := alice
  localDevicePubkey := ⟨.point (.secret 1)⟩
  localDeviceSecretKey := .secret 1
  localInvite := none
  verifiedPeerAppKeys := VerifiedAppKeysIndex.default
  users := SortedMap.empty

def imports (n : Nat) : List (Operation KeyTerm TextTerm) :=
  (List.range n).map (fun i => .importSessionState bob bobDevice (sendingState i) 0)

/-- The twelfth of twelve equal sessions is dropped, by the record that is given it and
by the import that stores it. -/
theorem twelfth_session_discarded :
    SessionManager.new alice (.secret 1) = .ok emptyManager ∧
    ((emptyManager.run numbered (imports 11)).1.record? bob bobDevice).map (fun record =>
      (record.upsertSession (Session.fromState (sendingState 11)) 0).containsState
        (sendingState 11)) = some false ∧
    ((emptyManager.run numbered (imports 12)).1.record? bob bobDevice).map (fun record =>
      record.containsState (sendingState 11)) = some false := by
  refine ⟨rfl, ?_, ?_⟩
  · decide +kernel
  · decide +kernel

/-- A manager with one session keeps it when it sends. -/
theorem sessions_retained_one :
    ∃ output manager' rng', (emptyManager.run numbered (imports 1)).1.perform numbered
        (.prepareRemoteSend bob (.bytes "hello") 0) = (.ok output, manager', rng') ∧
      output.deliveries.length = 1 ∧
      ∀ delivery ∈ output.deliveries, manager'.HasSenderOf delivery := by
  generalize hcall : (emptyManager.run numbered (imports 1)).1.perform numbered
    (.prepareRemoteSend bob (.bytes "hello") 0) = outcome
  have hlength : outcome.1.toOption.map (fun output => output.deliveries.length) = some 1 := by
    rw [← hcall]
    decide +kernel
  obtain ⟨result, manager', rng'⟩ := outcome
  cases result with
  | error e => cases hlength
  | ok output =>
      refine ⟨output, manager', rng', rfl, Option.some.inj hlength, ?_⟩
      exact SessionManager.sessions_retained.2.2 alice (.secret 1) emptyManager numbered
        (imports 1) rfl numbered rng' _ output manager' hcall (fun _ _ h => by cases h)

end Symbolic

end NostrDoubleRatchet
