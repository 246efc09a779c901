import NostrDoubleRatchet.SessionManager.Retention

/-!
What a failed send leaves behind. One device is served as a whole or not at all, but a
fan-out keeps what the devices before the failing one were given, and a send on all
sessions of a device takes its inactive sessions out before it tries them.
-/

namespace NostrDoubleRatchet

variable {K T : Type} [LinearOrder K]

namespace DeviceRecord

/-- Every session of the first record is in the second, in the same state. -/
def SessionsKept (record record' : DeviceRecord K T) : Prop :=
  ∀ state, record.containsState state = true → record'.containsState state = true

theorem SessionsKept.refl (record : DeviceRecord K T) : record.SessionsKept record :=
  fun _ h => h

theorem SessionsKept.trans {a b c : DeviceRecord K T} (hab : a.SessionsKept b)
    (hbc : b.SessionsKept c) : a.SessionsKept c :=
  fun state h => hbc state (hab state h)

/-- The record has no session that can send. -/
def Silent (record : DeviceRecord K T) : Prop :=
  (∀ session, record.activeSession = some session → session.canSend = false) ∧
    ∀ session ∈ record.inactiveSessions, session.canSend = false

theorem bestInactiveSource_of_silent {index : Nat} {sessions : List (Session K)}
    {best : Option (SendSessionSource × SessionPriority)}
    (h : ∀ session ∈ sessions, session.canSend = false) :
    bestInactiveSource index sessions best = best := by
  induction sessions generalizing index with
  | nil => rfl
  | cons session rest ih =>
      unfold bestInactiveSource
      rw [h session List.mem_cons_self, Bool.false_and, if_neg Bool.false_ne_true]
      exact ih (fun other hmem => h other (List.mem_cons_of_mem _ hmem))

theorem bestSendSessionSource_of_silent {record : DeviceRecord K T} (h : record.Silent) :
    record.bestSendSessionSource = none := by
  have hfilter : record.activeSession.filter Session.canSend = none := by
    cases hactive : record.activeSession with
    | none => rfl
    | some session => simp [Option.filter, h.1 session hactive]
  unfold bestSendSessionSource
  simp only [hfilter, Option.map_none, bestInactiveSource_of_silent h.2]

private theorem bestInactiveSource_ne_none {index : Nat} {sessions : List (Session K)}
    {session : Session K} (best : Option (SendSessionSource × SessionPriority))
    (hmem : session ∈ sessions) (hcan : session.canSend = true) :
    bestInactiveSource index sessions best ≠ none := by
  induction sessions generalizing index best with
  | nil => cases hmem
  | cons first rest ih =>
      cases best with
      | some best =>
          have hsome := bestInactiveSource_isSome index (first :: rest) best
          intro hnone
          rw [hnone] at hsome
          cases hsome
      | none =>
          unfold bestInactiveSource
          split
          · have hsome := bestInactiveSource_isSome (index + 1) rest
              (.inactive index, sessionPriority first)
            intro hnone
            rw [hnone] at hsome
            cases hsome
          · rename_i hfirst
            rcases List.mem_cons.mp hmem with rfl | hrest
            · simp [hcan] at hfirst
            · exact ih _ hrest

/-- The records for which no session to send on is found. -/
theorem silent_iff {record : DeviceRecord K T} :
    record.Silent ↔ record.bestSendSessionSource = none := by
  refine ⟨bestSendSessionSource_of_silent, fun hnone => ?_⟩
  refine ⟨fun session hactive => active_cannotSend hnone hactive, fun session hmem => ?_⟩
  cases hcan : session.canSend with
  | false => rfl
  | true =>
      exact absurd (Option.map_eq_none_iff.mp hnone) (bestInactiveSource_ne_none _ hmem hcan)

/-! Putting silent sessions back. -/

theorem silent_upsertSession {record : DeviceRecord K T} {session : Session K}
    (now : UnixSeconds) (h : record.Silent) (hsession : session.canSend = false) :
    (record.upsertSession session now).Silent := by
  have hmem : ∀ {state seen} {sessions : List (Session K)} {other : Session K},
      other ∈ compactSessions state seen sessions → other ∈ sessions := by
    intro state seen sessions other
    induction sessions generalizing seen with
    | nil => exact fun hmem => hmem
    | cons first rest ih =>
        unfold compactSessions
        split
        · exact fun hmem => List.mem_cons_of_mem _ (ih hmem)
        · intro hmem
          rcases List.mem_cons.mp hmem with rfl | hrest
          · exact List.mem_cons_self
          · exact List.mem_cons_of_mem _ (ih hrest)
  have hplaced : (record.placeSession session).Silent := by
    unfold placeSession
    cases hold : record.activeSession with
    | none => exact ⟨fun other hother => by cases hother; exact hsession, h.2⟩
    | some old =>
        have holdSilent := h.1 old hold
        dsimp only
        split
        · refine ⟨fun other hother => ?_, fun other hother => ?_⟩
          · cases hother
            exact holdSilent
          · rcases List.mem_append.mp hother with hin | hnew
            · exact h.2 other hin
            · rw [List.mem_singleton.mp hnew]
              exact hsession
        · refine ⟨fun other hother => by cases hother; exact hsession, fun other hother => ?_⟩
          rcases List.mem_append.mp hother with hin | hnew
          · exact h.2 other hin
          · rw [List.mem_singleton.mp hnew]
            exact holdSilent
  unfold upsertSession
  split
  · exact ⟨h.1, fun other hother => h.2 other (hmem hother)⟩
  · exact ⟨hplaced.1, fun other hother => hplaced.2 other (hmem (List.mem_of_mem_take hother))⟩

theorem publicInvite_upsertSession (record : DeviceRecord K T) (session : Session K)
    (now : UnixSeconds) : (record.upsertSession session now).publicInvite = record.publicInvite := by
  unfold upsertSession placeSession
  split
  · rfl
  · cases record.activeSession with
    | none => rfl
    | some old =>
        dsimp only [compactDuplicateSessions, truncateInactive]
        split
        · rfl
        · rfl

/-- The number of sessions a record has. -/
def size (record : DeviceRecord K T) : Nat :=
  record.activeSession.toList.length + record.inactiveSessions.length

theorem size_upsertSession_le (record : DeviceRecord K T) (session : Session K)
    (now : UnixSeconds) : (record.upsertSession session now).size ≤ record.size + 1 := by
  have hplaced : (record.placeSession session).size ≤ record.size + 1 := by
    unfold placeSession size
    cases record.activeSession with
    | none =>
        simp only [Option.toList_some, Option.toList_none, List.length_cons, List.length_nil]
        omega
    | some old =>
        dsimp only
        split
        · simp only [List.length_append, List.length_cons, List.length_nil]
          omega
        · simp only [Option.toList_some, List.length_append, List.length_cons, List.length_nil]
          omega
  unfold upsertSession
  split
  · have hcompact := length_compactSessions_le (record.activeSession.map Session.state) []
      record.inactiveSessions
    unfold size compactDuplicateSessions
    dsimp only
    omega
  · have hcompact := (List.length_take_le' MAX_INACTIVE_SESSIONS _).trans
      (length_compactSessions_le ((record.placeSession session).activeSession.map Session.state)
        [] (record.placeSession session).inactiveSessions)
    unfold size truncateInactive compactDuplicateSessions
    unfold size at hplaced
    dsimp only
    exact (Nat.add_le_add_left hcompact _).trans hplaced

section

variable [Primitives K T]

/-- Inactive sessions that cannot send are put back, all of them when they fit. -/
theorem deliverInactive_of_silent (owner : OwnerPubkey K) (device : DevicePubkey K) (payload : T)
    (now : UnixSeconds) {sessions : List (Session K)} (deliveries : List (Delivery K T))
    {record : DeviceRecord K T} (rng : Rng K)
    (hlength : record.inactiveSessions.length + sessions.length ≤ MAX_INACTIVE_SESSIONS)
    (hsilent : ∀ session ∈ sessions, session.canSend = false) :
    ∃ record', deliverInactive owner device payload now sessions deliveries record rng =
        (.ok deliveries, record', rng) ∧
      record.SessionsKept record' ∧
      (∀ session ∈ sessions, record'.containsState session.state = true) ∧
      record'.publicInvite = record.publicInvite ∧ (record.Silent → record'.Silent) ∧
      record'.size ≤ record.size + sessions.length := by
  induction sessions generalizing record with
  | nil =>
      exact ⟨record, rfl, SessionsKept.refl record, (fun session hmem => by cases hmem), rfl, id,
        le_refl _⟩
  | cons session rest ih =>
      rw [List.length_cons] at hlength ⊢
      have hroom : record.inactiveSessions.length < MAX_INACTIVE_SESSIONS := by omega
      have hgrow := record.length_upsertSession_le session now
      have hsize := record.size_upsertSession_le session now
      have hfirst := hsilent session List.mem_cons_self
      obtain ⟨record', hcall, hkept, hback, hinvite, hquiet, htotal⟩ :=
        @ih (record.upsertSession session now) (by omega)
          (fun other hmem => hsilent other (List.mem_cons_of_mem _ hmem))
      refine ⟨record', ?_, ?_, ?_, ?_, ?_, by omega⟩
      · unfold deliverInactive
        rw [hfirst, if_neg Bool.false_ne_true]
        exact hcall
      · exact SessionsKept.trans
          (fun state h => containsState_upsertSession_of_containsState now hroom h) hkept
      · intro other hmem
        rcases List.mem_cons.mp hmem with rfl | hrest
        · exact hkept _ ((containsState_upsertSession record other now).mpr
            (Or.inr (roomFor_of_length_lt _ hroom)))
        · exact hback other hrest
      · rw [hinvite, publicInvite_upsertSession]
      · exact fun h => hquiet (silent_upsertSession now h hfirst)

theorem deliverInactive_ok_nil {owner : OwnerPubkey K} {device : DevicePubkey K} {payload : T}
    {now : UnixSeconds} {sessions : List (Session K)} {deliveries : List (Delivery K T)}
    {record record' : DeviceRecord K T} {rng rng' : Rng K}
    (h : deliverInactive owner device payload now sessions deliveries record rng =
      (.ok [], record', rng')) :
    deliveries = [] ∧ ∀ session ∈ sessions, session.canSend = false := by
  induction sessions generalizing deliveries record rng with
  | nil =>
      cases h
      exact ⟨rfl, fun session hmem => by cases hmem⟩
  | cons session rest ih =>
      unfold deliverInactive at h
      split at h
      · split at h
        · cases h
        · have hnil := (ih h).1
          simp at hnil
      · rename_i hcan
        obtain ⟨hnil, hrest⟩ := ih h
        refine ⟨hnil, fun other hmem => ?_⟩
        rcases List.mem_cons.mp hmem with rfl | hother
        · simpa using hcan
        · exact hrest other hother

omit [Primitives K T] in
private theorem finish_eq {now : UnixSeconds}
    {outcome : Except Error (List (Delivery K T)) × DeviceRecord K T × Rng K}
    {record : DeviceRecord K T} {rng : Rng K}
    (h : deliverAll.finish now outcome = (.ok [], record, rng)) :
    outcome = (.ok [], record, rng) := by
  obtain ⟨result, record', rng'⟩ := outcome
  cases result with
  | error e => cases h
  | ok deliveries =>
      cases deliveries with
      | nil => exact h
      | cons delivery rest => cases h

/-- Only a record without a session to send on sends nothing. -/
theorem silent_of_deliverAll {record record' : DeviceRecord K T} {owner : OwnerPubkey K}
    {device : DevicePubkey K} {payload : T} {now : UnixSeconds} {rng rng' : Rng K}
    (h : record.deliverAll owner device payload now rng = (.ok [], record', rng')) :
    record.Silent := by
  unfold deliverAll at h
  split at h
  · rename_i hactive
    refine ⟨fun session hsession => ?_, (deliverInactive_ok_nil (finish_eq h)).2⟩
    rw [hsession] at hactive
    simpa [Option.filter] using hactive
  · split at h
    · cases h
    · have hnil := (deliverInactive_ok_nil (finish_eq h)).1
      cases hnil

/-- A record without a session to send on keeps its sessions when all of them are
tried. -/
theorem deliverAll_of_silent {record : DeviceRecord K T} (owner : OwnerPubkey K)
    (device : DevicePubkey K) (payload : T) (now : UnixSeconds) (rng : Rng K)
    (hlength : record.inactiveSessions.length ≤ MAX_INACTIVE_SESSIONS)
    (hsilent : record.Silent) :
    ∃ record', record.deliverAll owner device payload now rng = (.ok [], record', rng) ∧
      record.SessionsKept record' ∧ record'.Silent ∧
      record'.publicInvite = record.publicInvite ∧ record'.size ≤ record.size := by
  have hfilter : record.activeSession.filter Session.canSend = none := by
    cases hactive : record.activeSession with
    | none => rfl
    | some session => simp [Option.filter, hsilent.1 session hactive]
  have hfits : ({ record with inactiveSessions := [] } :
      DeviceRecord K T).inactiveSessions.length + record.inactiveSessions.length ≤
        MAX_INACTIVE_SESSIONS := by
    simpa using hlength
  obtain ⟨record', hcall, hkept, hback, hinvite, hquiet, hsize⟩ :=
    deliverInactive_of_silent owner device payload now [] rng hfits hsilent.2
  refine ⟨record', ?_, fun state hstate => ?_, ?_, hinvite, ?_⟩
  · unfold deliverAll
    rw [hfilter]
    dsimp only
    rw [hcall]
    rfl
  · obtain hin | ⟨session, hmem, rfl⟩ := containsState_iff.mp hstate
    · exact hkept state (containsState_iff.mpr (Or.inl hin))
    · exact hback session hmem
  · exact hquiet ⟨hsilent.1, fun session hmem => by cases hmem⟩
  · simpa [size] using hsize

/-- When only the active session can send, a failure comes from it and changes
nothing. -/
theorem deliverAll_error_of_silentInactive {record record' : DeviceRecord K T}
    {owner : OwnerPubkey K} {device : DevicePubkey K} {payload : T} {now : UnixSeconds}
    {rng rng' : Rng K} {e : Error}
    (hlength : record.inactiveSessions.length ≤ MAX_INACTIVE_SESSIONS)
    (hsilent : ∀ session ∈ record.inactiveSessions, session.canSend = false)
    (h : record.deliverAll owner device payload now rng = (.error e, record', rng')) :
    record' = record := by
  unfold deliverAll at h
  split at h
  · have hfits : ({ record with inactiveSessions := [] } :
        DeviceRecord K T).inactiveSessions.length + record.inactiveSessions.length ≤
          MAX_INACTIVE_SESSIONS := by
      simpa using hlength
    obtain ⟨kept, hcall, -⟩ :=
      deliverInactive_of_silent owner device payload now [] rng hfits hsilent
    rw [hcall] at h
    cases h
  · split at h
    · cases h
      rfl
    · rename_i session' envelope rng₁ hsend
      have hfits : ({ record with activeSession := some session', inactiveSessions := [] } :
          DeviceRecord K T).inactiveSessions.length + record.inactiveSessions.length ≤
            MAX_INACTIVE_SESSIONS := by
        simpa using hlength
      obtain ⟨kept, hcall, -⟩ := deliverInactive_of_silent owner device payload now
        [⟨owner, device, envelope⟩] rng₁ hfits hsilent
      rw [hcall] at h
      cases h

end

/-! Records that lose nothing when they are served. -/

section

variable [Primitives K T] [InvitePrimitives K T]

/-- The record has a place for the session of an accepted invite. -/
def HasRoom (record : DeviceRecord K T) : Prop :=
  record.activeSession = none ∨ record.inactiveSessions.length < MAX_INACTIVE_SESSIONS

/-- The invite a one-way session is refreshed with is not used up. -/
def RefreshUsable (record : DeviceRecord K T) (identity : LocalIdentity K) (now : UnixSeconds) :
    Prop :=
  ∀ invite rng, record.publicInvite = some invite →
    (invite.acceptWithOwnerContext now identity.devicePubkey identity.deviceSecretKey
      (some identity.ownerPubkey) rng).1 ≠ .error (.domain .inviteAlreadyUsed) ∧
    (invite.acceptWithOwnerContext now identity.devicePubkey identity.deviceSecretKey
      (some identity.ownerPubkey) rng).1 ≠ .error (.domain .inviteExhausted)

/-- Serving the device advances none of its sessions: nothing is sent to it, or it is
given a new session for which there is room. -/
def Spared (record : DeviceRecord K T) (identity : LocalIdentity K) (owner : OwnerPubkey K)
    (device : DevicePubkey K) (now : UnixSeconds) (refresh : Bool) : Prop :=
  record.authorized = false ∨ record.isStale = true ∨
    ((record.bestSendSessionSource = none ∨
      (record.shouldRefresh identity owner device refresh = true ∧
        record.RefreshUsable identity now)) ∧ record.HasRoom)

theorem Spared.served {record : DeviceRecord K T} {identity : LocalIdentity K}
    {owner : OwnerPubkey K} {device : DevicePubkey K} {now : UnixSeconds}
    (h : record.Spared identity owner device now false) (hauthorized : record.authorized = true)
    (hstale : record.isStale = false) : record.Silent ∧ record.HasRoom := by
  rcases h with hno | hyes | ⟨hserved, hroom⟩
  · rw [hauthorized] at hno
    cases hno
  · rw [hstale] at hyes
    cases hyes
  · refine ⟨silent_iff.mpr (hserved.resolve_right (fun hrefresh => ?_)), hroom⟩
    simp [shouldRefresh] at hrefresh

/-- The device is served, and for some draws the delivery to it fails. -/
def Fails (record : DeviceRecord K T) (identity : LocalIdentity K) (owner : OwnerPubkey K)
    (device : DevicePubkey K) (payload : T) (now : UnixSeconds) (refresh : Bool) : Prop :=
  record.authorized = true ∧ record.isStale = false ∧
    ∃ rng rng' e, record.deliver identity owner device payload now refresh rng = (.error e, rng')

/-- The device is served, and for some draws sending on one of its sessions fails. -/
def FailsOnSessions (record : DeviceRecord K T) (owner : OwnerPubkey K)
    (device : DevicePubkey K) (payload : T) (now : UnixSeconds) : Prop :=
  record.authorized = true ∧ record.isStale = false ∧
    ∃ rng rng' e record', record.deliverAll owner device payload now rng =
      (.error e, record', rng')

omit [Primitives K T] [InvitePrimitives K T] in
theorem HasRoom.keeps_upsert {record : DeviceRecord K T} {session : Session K}
    (hroom : record.HasRoom) (now : UnixSeconds)
    (hlength : record.inactiveSessions.length ≤ MAX_INACTIVE_SESSIONS) :
    record.SessionsKept (record.upsertSession session now) := by
  intro state hstate
  rcases hroom with hnone | hlt
  · unfold upsertSession
    split
    · exact (record.containsState_compact state).trans hstate
    · have hplaced : record.placeSession session = { record with activeSession := some session } := by
        unfold placeSession
        rw [hnone]
      have hkept : (record.placeSession session).compactDuplicateSessions.containsState state =
          true :=
        (containsState_compact _ state).trans (containsState_placeSession hstate)
      rw [← hkept]
      apply containsState_congr
      · rfl
      · refine List.take_of_length_le ((length_compactSessions_le _ _ _).trans ?_)
        rw [hplaced]
        exact hlength
  · exact containsState_upsertSession_of_containsState now hlt hstate

/-- What a spared record becomes when it is served. -/
theorem Spared.keeps {record record' : DeviceRecord K T} {identity : LocalIdentity K}
    {owner : OwnerPubkey K} {device : DevicePubkey K} {payload : T} {now : UnixSeconds}
    {refresh : Bool} {rng rng' : Rng K}
    {result : Delivery K T × Option (InviteResponseEnvelope K T)}
    (h : record.Spared identity owner device now refresh)
    (hauthorized : record.authorized = true) (hstale : record.isStale = false)
    (hlength : record.inactiveSessions.length ≤ MAX_INACTIVE_SESSIONS)
    (hdeliver : record.deliver identity owner device payload now refresh rng =
      (.ok (some (result, record')), rng')) : record.SessionsKept record' := by
  have hbootstrap : ∀ {invite : Invite K T} {rng rng' : Rng K}, record.HasRoom →
      record.bootstrapDelivery identity invite owner device payload now rng =
        (.ok (some (result, record')), rng') → record.SessionsKept record' := by
    intro invite rng rng' hroom hcall
    unfold bootstrapDelivery at hcall
    split at hcall
    · cases hcall
    · cases hcall
    · cases hcall
    · split at hcall
      · cases hcall
      · cases hcall
        exact @HasRoom.keeps_upsert K T _ { record with inviteResponseGenerated := true } _
          hroom now hlength
  rcases h with hno | hyes | ⟨hserved, hroom⟩
  · rw [hauthorized] at hno
    cases hno
  · rw [hstale] at hyes
    cases hyes
  · unfold deliver at hdeliver
    obtain ⟨refreshed, rng₁, hrefresh, hrest⟩ := RandM.bind_eq_ok.mp hdeliver
    cases hinvite : record.publicInvite with
    | none =>
        simp only [hinvite] at hrefresh hrest
        cases hrefresh
        rcases hserved with hnone | ⟨hshould, -⟩
        · simp only [hnone] at hrest
          cases hrest
        · simp [shouldRefresh, hinvite] at hshould
    | some invite =>
        simp only [hinvite] at hrefresh hrest
        split at hrefresh
        · rename_i hshould
          cases refreshed with
          | some value =>
              cases hrest
              exact hbootstrap hroom hrefresh
          | none =>
              rcases hserved with hnone | ⟨-, husable⟩
              · simp [shouldRefresh, hnone] at hshould
              · unfold bootstrapDelivery at hrefresh
                obtain ⟨hused, hexhausted⟩ := husable invite rng hinvite
                split at hrefresh
                · rename_i haccept
                  rw [haccept] at hused
                  exact absurd rfl hused
                · rename_i haccept
                  rw [haccept] at hexhausted
                  exact absurd rfl hexhausted
                · cases hrefresh
                · split at hrefresh <;> cases hrefresh
        · rename_i hshould
          cases hrefresh
          rcases hserved with hnone | ⟨hyes, -⟩
          · simp only [hnone] at hrest
            exact hbootstrap hroom hrest
          · exact absurd hyes hshould

/-- The failure of a delivery to a record without a session to send on is that of its
invite. -/
theorem fails_of_silent {record record' : DeviceRecord K T} {identity : LocalIdentity K}
    {owner : OwnerPubkey K} {device : DevicePubkey K} {payload : T} {now : UnixSeconds}
    {rng rng' : Rng K} {e : Error} (hsilent : record.Silent) (hsilent' : record'.Silent)
    (hinvite : record'.publicInvite = record.publicInvite)
    (h : record'.deliver identity owner device payload now false rng = (.error e, rng')) :
    record.deliver identity owner device payload now false rng = (.error e, rng') := by
  have hbootstrap : ∀ invite : Invite K T,
      record'.bootstrapDelivery identity invite owner device payload now rng = (.error e, rng') →
      record.bootstrapDelivery identity invite owner device payload now rng =
        (.error e, rng') := by
    intro invite hcall
    unfold bootstrapDelivery at hcall ⊢
    split at hcall
    · cases hcall
    · cases hcall
    · exact hcall
    · split at hcall
      · exact hcall
      · cases hcall
  unfold deliver at h ⊢
  rw [bestSendSessionSource_of_silent hsilent', hinvite] at h
  rw [bestSendSessionSource_of_silent hsilent]
  cases hstored : record.publicInvite with
  | none =>
      rw [hstored] at h
      cases h
  | some invite =>
      rw [hstored] at h
      exact hbootstrap invite h

end

end DeviceRecord

/-! The manager. -/

namespace SessionManager

/-- Every session stored before is stored after, in the same state. -/
def SessionsKept (manager manager' : SessionManager K T) : Prop :=
  ∀ owner device record, manager.record? owner device = some record →
    ∃ record', manager'.record? owner device = some record' ∧ record.SessionsKept record'

theorem SessionsKept.refl (manager : SessionManager K T) : manager.SessionsKept manager :=
  fun _ _ record h => ⟨record, h, DeviceRecord.SessionsKept.refl record⟩

theorem SessionsKept.trans {a b c : SessionManager K T} (hab : a.SessionsKept b)
    (hbc : b.SessionsKept c) : a.SessionsKept c := by
  intro owner device record hrecord
  obtain ⟨record', hrecord', hkept⟩ := hab owner device record hrecord
  obtain ⟨record'', hrecord'', hkept'⟩ := hbc owner device record' hrecord'
  exact ⟨record'', hrecord'', hkept.trans hkept'⟩

theorem SessionsKept.setDevice (manager : SessionManager K T) {owner : OwnerPubkey K}
    {device : DevicePubkey K} {record' : DeviceRecord K T} {now : UnixSeconds}
    (h : (manager.deviceRecord owner device now).SessionsKept record') :
    manager.SessionsKept (manager.setDevice owner device record') := by
  intro owner₁ device₁ record hrecord
  rw [record?_setDevice]
  by_cases hsame : owner = owner₁ ∧ device = device₁
  · obtain ⟨rfl, rfl⟩ := hsame
    rw [deviceRecord_eq, hrecord] at h
    exact ⟨record', if_pos ⟨rfl, rfl⟩, h⟩
  · exact ⟨record, by rw [if_neg hsame, hrecord], DeviceRecord.SessionsKept.refl record⟩

section

variable [Primitives K T] [InvitePrimitives K T]

omit [Primitives K T] [InvitePrimitives K T] in
/-- A fan-out that fails does so at one target, with those before it served. -/
theorem fanOut_error {prepare : SessionManager K T → TargetDevice K → Collected K T → Rng K →
      Outcome K T (Collected K T)} {targets : List (TargetDevice K)} {collected : Collected K T}
    {manager manager' : SessionManager K T} {rng rng' : Rng K} {e : Error}
    (h : fanOut prepare targets collected manager rng = (.error e, manager', rng')) :
    ∃ before target after collected₁ manager₁ rng₁, targets = before ++ target :: after ∧
      fanOut prepare before collected manager rng = (.ok collected₁, manager₁, rng₁) ∧
      prepare manager₁ target collected₁ rng₁ = (.error e, manager', rng') := by
  induction targets generalizing collected manager rng with
  | nil => cases h
  | cons target rest ih =>
      unfold fanOut at h
      split at h
      · rename_i e₁ manager₁ rng₁ hprepare
        cases h
        exact ⟨[], target, rest, collected, manager, rng, rfl, rfl, hprepare⟩
      · rename_i collected₁ manager₁ rng₁ hprepare
        obtain ⟨before, last, after, collected₂, manager₂, rng₂, rfl, hfan, hlast⟩ := ih h
        refine ⟨target :: before, last, after, collected₂, manager₂, rng₂, rfl, ?_, hlast⟩
        unfold fanOut
        rw [hprepare]
        exact hfan

/-- In the middle of a fan-out: the records of the targets left are as they were. -/
structure Aside (manager₀ : SessionManager K T) (targets : List (TargetDevice K))
    (manager : SessionManager K T) : Prop where
  nodup : targets.Nodup
  bounded : manager.All DeviceRecord.Bounded
  identity : manager.localIdentity = manager₀.localIdentity
  untouched : ∀ target ∈ targets,
    manager.record? target.ownerPubkey target.devicePubkey =
      manager₀.record? target.ownerPubkey target.devicePubkey

omit [Primitives K T] [InvitePrimitives K T] in
theorem aside_start {manager : SessionManager K T} {targets : List (TargetDevice K)}
    (hnodup : targets.Nodup) (hbounded : manager.All DeviceRecord.Bounded) :
    Aside manager targets manager :=
  ⟨hnodup, hbounded, rfl, fun _ _ => rfl⟩

omit [Primitives K T] [InvitePrimitives K T] in
theorem Aside.deviceRecord {manager₀ manager : SessionManager K T} {target : TargetDevice K}
    {rest : List (TargetDevice K)} (h : Aside manager₀ (target :: rest) manager)
    (now : UnixSeconds) :
    manager.deviceRecord target.ownerPubkey target.devicePubkey now =
      manager₀.deviceRecord target.ownerPubkey target.devicePubkey now := by
  rw [deviceRecord_eq, deviceRecord_eq, h.untouched target List.mem_cons_self]

omit [Primitives K T] [InvitePrimitives K T] in
theorem Aside.serve {manager₀ manager : SessionManager K T} {target : TargetDevice K}
    {rest : List (TargetDevice K)} {record' : DeviceRecord K T}
    (h : Aside manager₀ (target :: rest) manager)
    (hbounded : record'.inactiveSessions.length ≤ MAX_INACTIVE_SESSIONS) :
    Aside manager₀ rest (manager.setDevice target.ownerPubkey target.devicePubkey record') := by
  obtain ⟨hnot, hnodup⟩ := List.nodup_cons.mp h.nodup
  refine ⟨hnodup, RecordInvariant.all_setDevice h.bounded hbounded, h.identity,
    fun other hmem => ?_⟩
  rw [record?_setDevice, if_neg, h.untouched other (List.mem_cons_of_mem _ hmem)]
  rintro ⟨howner, hdevice⟩
  apply hnot
  have hsame : target = other := by
    cases target
    cases other
    cases howner
    cases hdevice
    rfl
  rw [hsame]
  exact hmem

omit [Primitives K T] [InvitePrimitives K T] in
theorem Aside.rebase {manager₀ manager manager' : SessionManager K T}
    {targets : List (TargetDevice K)} (h : Aside manager targets manager')
    (hbase : Aside manager₀ targets manager) : Aside manager₀ targets manager' :=
  ⟨h.nodup, h.bounded, h.identity.trans hbase.identity,
    fun target hmem => (h.untouched target hmem).trans (hbase.untouched target hmem)⟩

omit [Primitives K T] [InvitePrimitives K T] in
theorem length_deviceRecord_le {manager : SessionManager K T}
    (h : manager.All DeviceRecord.Bounded) (owner : OwnerPubkey K) (device : DevicePubkey K)
    (now : UnixSeconds) :
    (manager.deviceRecord owner device now).inactiveSessions.length ≤ MAX_INACTIVE_SESSIONS :=
  bounded_recordInvariant.deviceRecord h owner device now

omit [Primitives K T] [InvitePrimitives K T] in
theorem deviceRecord_setDevice (manager : SessionManager K T) (owner : OwnerPubkey K)
    (device : DevicePubkey K) (record : DeviceRecord K T) (now : UnixSeconds) :
    (manager.setDevice owner device record).deviceRecord owner device now = record := by
  rw [deviceRecord_eq, record?_setDevice_self]
  rfl

/-! One target of `prepare_explicit_send`. -/

/-- Serving a target leaves its record as it was, or delivers from it. -/
theorem prepareTarget_cases {manager manager' : SessionManager K T} {target : TargetDevice K}
    {payload : T} {now : UnixSeconds} {refresh : Bool} {collected : Collected K T}
    {rng rng' : Rng K} {result : Except Error (Collected K T)}
    (hcall : prepareTarget payload now refresh manager target collected rng =
      (result, manager', rng')) :
    (manager' = manager.setDevice target.ownerPubkey target.devicePubkey
        (manager.deviceRecord target.ownerPubkey target.devicePubkey now) ∧
      ∀ e, result = .error e →
        (manager.deviceRecord target.ownerPubkey target.devicePubkey now).authorized = true ∧
        (manager.deviceRecord target.ownerPubkey target.devicePubkey now).isStale = false ∧
        (manager.deviceRecord target.ownerPubkey target.devicePubkey now).deliver
          manager.localIdentity target.ownerPubkey target.devicePubkey payload now refresh rng =
          (.error e, rng')) ∨
    ∃ value record', (∀ e, result ≠ .error e) ∧
      manager' = manager.setDevice target.ownerPubkey target.devicePubkey record' ∧
      (manager.deviceRecord target.ownerPubkey target.devicePubkey now).authorized = true ∧
      (manager.deviceRecord target.ownerPubkey target.devicePubkey now).isStale = false ∧
      (manager.deviceRecord target.ownerPubkey target.devicePubkey now).deliver
        manager.localIdentity target.ownerPubkey target.devicePubkey payload now refresh rng =
        (.ok (some (value, record')), rng') := by
  unfold prepareTarget prepareDeviceDelivery at hcall
  simp only at hcall
  by_cases hflags : (!(manager.deviceRecord target.ownerPubkey target.devicePubkey
      now).authorized || (manager.deviceRecord target.ownerPubkey target.devicePubkey
      now).isStale) = true
  · rw [if_pos hflags] at hcall
    cases hcall
    exact Or.inl ⟨rfl, fun e he => by cases he⟩
  · rw [if_neg hflags] at hcall
    simp only [Bool.or_eq_true, Bool.not_eq_true', not_or, Bool.not_eq_false,
      Bool.not_eq_true] at hflags
    have hidentity : (manager.setDevice target.ownerPubkey target.devicePubkey
        (manager.deviceRecord target.ownerPubkey target.devicePubkey now)).localIdentity =
          manager.localIdentity := rfl
    rw [hidentity] at hcall
    generalize hdeliver : (manager.deviceRecord target.ownerPubkey target.devicePubkey
      now).deliver manager.localIdentity target.ownerPubkey target.devicePubkey payload now
        refresh rng = outcome at hcall
    obtain ⟨delivered, rng₁⟩ := outcome
    match delivered with
    | .error e =>
        cases hcall
        refine Or.inl ⟨rfl, fun e₁ he => ?_⟩
        cases he
        exact ⟨hflags.1, hflags.2, rfl⟩
    | .ok none =>
        cases hcall
        exact Or.inl ⟨rfl, fun e he => by cases he⟩
    | .ok (some (value, record')) =>
        simp only [setDevice_setDevice] at hcall
        cases hcall
        exact Or.inr ⟨value, record', (fun e he => by cases he), rfl, hflags.1, hflags.2,
          rfl⟩

omit [Primitives K T] [InvitePrimitives K T] in
private theorem kept_same (manager : SessionManager K T) (owner : OwnerPubkey K)
    (device : DevicePubkey K) (now : UnixSeconds) :
    manager.SessionsKept
      (manager.setDevice owner device (manager.deviceRecord owner device now)) :=
  SessionsKept.setDevice manager (DeviceRecord.SessionsKept.refl _)

theorem Aside.prepareTarget {manager₀ manager manager' : SessionManager K T}
    {target : TargetDevice K} {rest : List (TargetDevice K)} {payload : T} {now : UnixSeconds}
    {refresh : Bool} {collected : Collected K T} {rng rng' : Rng K}
    {result : Except Error (Collected K T)} (h : Aside manager₀ (target :: rest) manager)
    (hcall : SessionManager.prepareTarget payload now refresh manager target collected rng =
      (result, manager', rng')) : Aside manager₀ rest manager' := by
  have hbounded : DeviceRecord.Bounded target.devicePubkey
      (manager.deviceRecord target.ownerPubkey target.devicePubkey now) :=
    length_deviceRecord_le h.bounded _ _ now
  obtain ⟨rfl, -⟩ | ⟨value, record', -, rfl, -, -, hdeliver⟩ := prepareTarget_cases hcall
  · exact h.serve hbounded
  · exact h.serve
      (bounded_recordInvariant.delivered hbounded (DeviceRecord.deliver_delivered hdeliver))

/-- A spared target keeps its sessions. -/
theorem prepareTarget_kept {manager manager' : SessionManager K T} {target : TargetDevice K}
    {payload : T} {now : UnixSeconds} {refresh : Bool} {collected : Collected K T}
    {rng rng' : Rng K} {result : Except Error (Collected K T)}
    (hbounded : manager.All DeviceRecord.Bounded)
    (hspared : (manager.deviceRecord target.ownerPubkey target.devicePubkey now).Spared
      manager.localIdentity target.ownerPubkey target.devicePubkey now refresh)
    (hcall : prepareTarget payload now refresh manager target collected rng =
      (result, manager', rng')) : manager.SessionsKept manager' := by
  obtain ⟨rfl, -⟩ | ⟨value, record', -, rfl, hauthorized, hstale, hdeliver⟩ :=
    prepareTarget_cases hcall
  · exact manager.kept_same _ _ now
  · exact SessionsKept.setDevice manager (hspared.keeps hauthorized hstale
      (length_deviceRecord_le hbounded _ _ now) hdeliver)

/-- So does a target at which the call fails. -/
theorem prepareTarget_error {manager manager' : SessionManager K T} {target : TargetDevice K}
    {payload : T} {now : UnixSeconds} {refresh : Bool} {collected : Collected K T}
    {rng rng' : Rng K} {e : Error}
    (hcall : prepareTarget payload now refresh manager target collected rng =
      (.error e, manager', rng')) :
    manager.SessionsKept manager' ∧
      (manager.deviceRecord target.ownerPubkey target.devicePubkey now).Fails
        manager.localIdentity target.ownerPubkey target.devicePubkey payload now refresh := by
  obtain ⟨rfl, herror⟩ | ⟨value, record', hok, -⟩ := prepareTarget_cases hcall
  · obtain ⟨hauthorized, hstale, hdeliver⟩ := herror e rfl
    exact ⟨manager.kept_same _ _ now, hauthorized, hstale, rng, rng', e, hdeliver⟩
  · exact absurd rfl (hok e)

/-! One target of `prepare_local_sibling_send_reusing_all_sessions`. -/

/-- Nothing is sent to a device that is not authorized; a device without a session to
send on is served as by the other calls, from the record with its sessions put back; any
other has something sent or fails. -/
theorem prepareTargetAllSessions_cases {manager manager' : SessionManager K T}
    {target : TargetDevice K} {payload : T} {now : UnixSeconds} {collected : Collected K T}
    {rng rng' : Rng K} {result : Except Error (Collected K T)} {record : DeviceRecord K T}
    (hrecord : manager.deviceRecord target.ownerPubkey target.devicePubkey now = record)
    (hlength : record.inactiveSessions.length ≤ MAX_INACTIVE_SESSIONS)
    (hcall : prepareTargetAllSessions payload now manager target collected rng =
      (result, manager', rng')) :
    ((record.authorized = false ∨ record.isStale = true) ∧
      prepareTarget payload now false
        (manager.setDevice target.ownerPubkey target.devicePubkey record) target collected rng =
        (result, manager', rng')) ∨
    (record.authorized = true ∧ record.isStale = false ∧ record.Silent ∧
      ∃ record', record.SessionsKept record' ∧ record'.Silent ∧
        record'.publicInvite = record.publicInvite ∧ record'.size ≤ record.size ∧
        record'.inactiveSessions.length ≤ MAX_INACTIVE_SESSIONS ∧
        prepareTarget payload now false
          (manager.setDevice target.ownerPubkey target.devicePubkey record') target collected
          rng = (result, manager', rng')) ∨
    (record.authorized = true ∧ record.isStale = false ∧
      ∃ tried record', record.deliverAll target.ownerPubkey target.devicePubkey payload now rng =
          (tried, record', rng') ∧ (∀ e, result = .error e → tried = .error e) ∧
        manager' = manager.setDevice target.ownerPubkey target.devicePubkey record' ∧
        tried ≠ .ok []) := by
  unfold prepareTargetAllSessions prepareDeviceDeliveriesForAllSendSessions at hcall
  simp only [hrecord] at hcall
  by_cases hflags : (!record.authorized || record.isStale) = true
  · rw [if_pos hflags] at hcall
    simp only [Bool.or_eq_true, Bool.not_eq_true'] at hflags
    exact Or.inl ⟨hflags, hcall⟩
  · rw [if_neg hflags] at hcall
    simp only [Bool.or_eq_true, Bool.not_eq_true', not_or, Bool.not_eq_false,
      Bool.not_eq_true] at hflags
    generalize hall : record.deliverAll target.ownerPubkey target.devicePubkey payload now rng =
      outcome at hcall
    obtain ⟨tried, record', rng₁⟩ := outcome
    match tried with
    | .error e =>
        cases hcall
        refine Or.inr (Or.inr ⟨hflags.1, hflags.2, .error e, record', rfl, fun e₁ he => ?_, rfl,
          fun hok => by cases hok⟩)
        cases he
        rfl
    | .ok [] =>
        have hsilent := DeviceRecord.silent_of_deliverAll hall
        obtain ⟨record'', hall', hkept, hsilent', hinvite, hsize⟩ :=
          DeviceRecord.deliverAll_of_silent target.ownerPubkey target.devicePubkey payload now
            rng hlength hsilent
        have hbefore : DeviceRecord.Bounded target.devicePubkey record := hlength
        have hafter := bounded_recordInvariant.deliverAll target.ownerPubkey target.devicePubkey
          payload now rng hbefore
        rw [hall'] at hafter
        rw [hall] at hall'
        cases hall'
        exact Or.inr (Or.inl ⟨hflags.1, hflags.2, hsilent, record', hkept, hsilent', hinvite,
          hsize, hafter, hcall⟩)
    | .ok (delivery :: others) =>
        cases hcall
        exact Or.inr (Or.inr ⟨hflags.1, hflags.2, .ok (delivery :: others), record', rfl,
          (fun e he => by cases he), rfl, fun hok => by cases hok⟩)

omit [Primitives K T] [InvitePrimitives K T] in
private theorem hasRoom_of_size {record : DeviceRecord K T}
    (h : record.size ≤ MAX_INACTIVE_SESSIONS) : record.HasRoom := by
  cases hactive : record.activeSession with
  | none => exact Or.inl hactive
  | some session =>
      refine Or.inr ?_
      simp only [DeviceRecord.size, hactive, Option.toList_some, List.length_cons,
        List.length_nil] at h
      omega

omit [Primitives K T] [InvitePrimitives K T] in
private theorem size_of_hasRoom {record : DeviceRecord K T} (hroom : record.HasRoom)
    (hlength : record.inactiveSessions.length ≤ MAX_INACTIVE_SESSIONS) :
    record.size ≤ MAX_INACTIVE_SESSIONS := by
  unfold DeviceRecord.size
  cases hactive : record.activeSession with
  | none => simpa using hlength
  | some session =>
      rcases hroom with hnone | hlt
      · rw [hactive] at hnone
        cases hnone
      · simp only [Option.toList_some, List.length_cons, List.length_nil]
        omega

theorem Aside.prepareTargetAllSessions {manager₀ manager manager' : SessionManager K T}
    {target : TargetDevice K} {rest : List (TargetDevice K)} {payload : T} {now : UnixSeconds}
    {collected : Collected K T} {rng rng' : Rng K} {result : Except Error (Collected K T)}
    (h : Aside manager₀ (target :: rest) manager)
    (hcall : SessionManager.prepareTargetAllSessions payload now manager target collected rng =
      (result, manager', rng')) : Aside manager₀ rest manager' := by
  have hlength := length_deviceRecord_le h.bounded target.ownerPubkey target.devicePubkey now
  have hfallback : ∀ {record' : DeviceRecord K T},
      record'.inactiveSessions.length ≤ MAX_INACTIVE_SESSIONS →
      SessionManager.prepareTarget payload now false
        (manager.setDevice target.ownerPubkey target.devicePubkey record') target collected
        rng = (result, manager', rng') → Aside manager₀ rest manager' := by
    intro record' hlength' hprepare
    have hbase := h.serve hlength'
    exact ((aside_start h.nodup hbase.bounded).prepareTarget hprepare).rebase hbase
  obtain ⟨-, hprepare⟩ | ⟨-, -, -, record', -, -, -, -, hlength', hprepare⟩ |
      ⟨-, -, tried, record', hall, -, rfl, -⟩ :=
    prepareTargetAllSessions_cases rfl hlength hcall
  · exact hfallback hlength hprepare
  · exact hfallback hlength' hprepare
  · have hbefore : DeviceRecord.Bounded target.devicePubkey
        (manager.deviceRecord target.ownerPubkey target.devicePubkey now) := hlength
    have hafter := bounded_recordInvariant.deliverAll target.ownerPubkey target.devicePubkey
      payload now rng hbefore
    rw [hall] at hafter
    exact h.serve hafter

/-- A spared target keeps its sessions when all of them are tried. -/
theorem prepareTargetAllSessions_kept {manager manager' : SessionManager K T}
    {target : TargetDevice K} {payload : T} {now : UnixSeconds} {collected : Collected K T}
    {rng rng' : Rng K} {result : Except Error (Collected K T)}
    (hbounded : manager.All DeviceRecord.Bounded)
    (hspared : (manager.deviceRecord target.ownerPubkey target.devicePubkey now).Spared
      manager.localIdentity target.ownerPubkey target.devicePubkey now false)
    (hcall : prepareTargetAllSessions payload now manager target collected rng =
      (result, manager', rng')) : manager.SessionsKept manager' := by
  generalize hrecord : manager.deviceRecord target.ownerPubkey target.devicePubkey now = record
    at hspared
  have hlength := length_deviceRecord_le hbounded target.ownerPubkey target.devicePubkey now
  rw [hrecord] at hlength
  have hfallback : ∀ {record' : DeviceRecord K T},
      record'.inactiveSessions.length ≤ MAX_INACTIVE_SESSIONS → record.SessionsKept record' →
      record'.Spared manager.localIdentity target.ownerPubkey target.devicePubkey now false →
      prepareTarget payload now false
        (manager.setDevice target.ownerPubkey target.devicePubkey record') target collected
        rng = (result, manager', rng') → manager.SessionsKept manager' := by
    intro record' hlength' hkept hspared' hprepare
    refine (SessionsKept.setDevice manager (hrecord ▸ hkept)).trans
      (prepareTarget_kept (RecordInvariant.all_setDevice hbounded hlength') ?_ hprepare)
    rw [deviceRecord_setDevice]
    exact hspared'
  obtain ⟨-, hprepare⟩ |
      ⟨hauthorized, hstale, -, record', hkept, hsilent', -, hsize, hlength', hprepare⟩ |
      ⟨hauthorized, hstale, tried, record', hall, -, -, hne⟩ :=
    prepareTargetAllSessions_cases hrecord hlength hcall
  · exact hfallback hlength (DeviceRecord.SessionsKept.refl _) hspared hprepare
  · have hroom := (hspared.served hauthorized hstale).2
    have htotal := hsize.trans (size_of_hasRoom hroom hlength)
    exact hfallback hlength' hkept (Or.inr (Or.inr
      ⟨Or.inl (DeviceRecord.silent_iff.mp hsilent'), hasRoom_of_size htotal⟩)) hprepare
  · obtain ⟨record'', hall', -⟩ := DeviceRecord.deliverAll_of_silent target.ownerPubkey
      target.devicePubkey payload now rng hlength (hspared.served hauthorized hstale).1
    rw [hall] at hall'
    cases hall'
    exact absurd rfl hne

/-- So does one at which the call fails, when no inactive session of it can send. It
fails on a session, or on its invite when it has none to send on. -/
theorem prepareTargetAllSessions_error {manager manager' : SessionManager K T}
    {target : TargetDevice K} {payload : T} {now : UnixSeconds} {collected : Collected K T}
    {rng rng' : Rng K} {e : Error} {record : DeviceRecord K T}
    (hrecord : manager.deviceRecord target.ownerPubkey target.devicePubkey now = record)
    (hbounded : manager.All DeviceRecord.Bounded)
    (hcall : prepareTargetAllSessions payload now manager target collected rng =
      (.error e, manager', rng')) :
    (record.FailsOnSessions target.ownerPubkey target.devicePubkey payload now ∨
      (record.bestSendSessionSource = none ∧ record.Fails manager.localIdentity
        target.ownerPubkey target.devicePubkey payload now false)) ∧
    ((record.FailsOnSessions target.ownerPubkey target.devicePubkey payload now →
      ∀ session ∈ record.inactiveSessions, session.canSend = false) →
      manager.SessionsKept manager') := by
  have hlength := length_deviceRecord_le hbounded target.ownerPubkey target.devicePubkey now
  rw [hrecord] at hlength
  have hfallback : ∀ {record' : DeviceRecord K T}, record.SessionsKept record' →
      prepareTarget payload now false
        (manager.setDevice target.ownerPubkey target.devicePubkey record') target collected
        rng = (.error e, manager', rng') →
      record'.Fails manager.localIdentity target.ownerPubkey target.devicePubkey payload now
        false ∧ manager.SessionsKept manager' := by
    intro record' hkept hprepare
    obtain ⟨hlast, hfails⟩ := prepareTarget_error hprepare
    rw [deviceRecord_setDevice] at hfails
    exact ⟨hfails, (SessionsKept.setDevice manager (hrecord ▸ hkept)).trans hlast⟩
  obtain ⟨hflags, hprepare⟩ |
      ⟨hauthorized, hstale, hsilent, record', hkept, hsilent', hinvite, -, -, hprepare⟩ |
      ⟨hauthorized, hstale, tried, record', hall, herror, rfl, -⟩ :=
    prepareTargetAllSessions_cases hrecord hlength hcall
  · obtain ⟨⟨hauthorized, hstale, -⟩, -⟩ := hfallback (DeviceRecord.SessionsKept.refl _) hprepare
    rw [hauthorized, hstale] at hflags
    simp at hflags
  · obtain ⟨⟨-, -, rng₁, rng₂, e₁, hdeliver⟩, hlast⟩ := hfallback hkept hprepare
    exact ⟨Or.inr ⟨DeviceRecord.silent_iff.mp hsilent, hauthorized, hstale, rng₁, rng₂, e₁,
      DeviceRecord.fails_of_silent hsilent hsilent' hinvite hdeliver⟩, fun _ => hlast⟩
  · rw [herror e rfl] at hall
    have hfails : record.FailsOnSessions target.ownerPubkey target.devicePubkey payload now :=
      ⟨hauthorized, hstale, rng, rng', e, record', hall⟩
    refine ⟨Or.inl hfails, fun hinactive => ?_⟩
    rw [DeviceRecord.deliverAll_error_of_silentInactive hlength (hinactive hfails) hall, ← hrecord]
    exact manager.kept_same _ _ now

/-! The calls. -/

/-- What a sending call is asked to do: the devices it walks, in any order, and how. -/
structure SendRequest (K T : Type) where
  targets : List (TargetDevice K)
  payload : T
  now : UnixSeconds
  refresh : Bool
  allSessions : Bool

/-- The target is one at which the call may fail. -/
def MayFail (manager : SessionManager K T) (request : SendRequest K T)
    (target : TargetDevice K) : Prop :=
  let record := manager.deviceRecord target.ownerPubkey target.devicePubkey request.now
  if request.allSessions then
    record.FailsOnSessions target.ownerPubkey target.devicePubkey request.payload request.now ∨
    (record.bestSendSessionSource = none ∧ record.Fails manager.localIdentity
      target.ownerPubkey target.devicePubkey request.payload request.now false)
  else record.Fails manager.localIdentity target.ownerPubkey target.devicePubkey request.payload
    request.now request.refresh

/-- Every device walked before one at which the call may fail is spared, and where all
sessions are tried such a device has no inactive session to send on. -/
def FailsSafely (manager : SessionManager K T) (request : SendRequest K T) : Prop :=
  ∀ before target after, targetSet request.targets = before ++ target :: after →
    manager.MayFail request target →
    (∀ other ∈ before,
      (manager.deviceRecord other.ownerPubkey other.devicePubkey request.now).Spared
        manager.localIdentity other.ownerPubkey other.devicePubkey request.now
        request.refresh) ∧
    (request.allSessions = true →
      (manager.deviceRecord target.ownerPubkey target.devicePubkey
        request.now).FailsOnSessions target.ownerPubkey target.devicePubkey request.payload
        request.now →
      ∀ session ∈ (manager.deviceRecord target.ownerPubkey target.devicePubkey
        request.now).inactiveSessions, session.canSend = false)


/-- A fan-out that fails at a target with those before it spared keeps every session. -/
private theorem fanOut_kept {prepare : SessionManager K T → TargetDevice K → Collected K T →
      Rng K → Outcome K T (Collected K T)}
    {manager manager' : SessionManager K T} {targets : List (TargetDevice K)}
    {now : UnixSeconds} {refresh : Bool} {collected : Collected K T} {rng rng' : Rng K}
    {e : Error} {F : TargetDevice K → Prop}
    (haside : ∀ {target rest collected manager₁ rng collected' manager' rng'},
      Aside manager (target :: rest) manager₁ →
      prepare manager₁ target collected rng = (.ok collected', manager', rng') →
      Aside manager rest manager')
    (hspared : ∀ {target collected manager₁ rng collected' manager' rng'},
      manager₁.All DeviceRecord.Bounded →
      (manager₁.deviceRecord target.ownerPubkey target.devicePubkey now).Spared
        manager₁.localIdentity target.ownerPubkey target.devicePubkey now refresh →
      prepare manager₁ target collected rng = (.ok collected', manager', rng') →
      manager₁.SessionsKept manager')
    (hfails : ∀ {target rest collected manager₁ rng manager' rng'},
      Aside manager (target :: rest) manager₁ →
      prepare manager₁ target collected rng = (.error e, manager', rng') →
      F target)
    (hlast : ∀ {target rest collected manager₁ rng manager' rng'},
      Aside manager (target :: rest) manager₁ → target ∈ targets →
      prepare manager₁ target collected rng = (.error e, manager', rng') →
      manager₁.SessionsKept manager')
    (hsafe : ∀ before target after, targets = before ++ target :: after →
      F target → ∀ other ∈ before,
        (manager.deviceRecord other.ownerPubkey other.devicePubkey now).Spared
          manager.localIdentity other.ownerPubkey other.devicePubkey now refresh)
    (hnodup : targets.Nodup) (hbounded : manager.All DeviceRecord.Bounded)
    (h : fanOut prepare targets collected manager rng = (.error e, manager', rng')) :
    manager.SessionsKept manager' := by
  obtain ⟨before, target, after, collected₁, manager₁, rng₁, rfl, hbefore, htarget⟩ :=
    fanOut_error h
  have hmiddle := fanOut_ok
    (I := fun left _ manager₁ => Aside manager (left ++ target :: after) manager₁)
    (fun _ _ _ _ _ _ _ _ hI hcall => haside hI hcall) (aside_start hnodup hbounded) hbefore
  have hbeforeSpared := hsafe before target after rfl (hfails hmiddle htarget)
  have hend := fanOut_ok
    (I := fun left _ manager₁ => Aside manager (left ++ target :: after) manager₁ ∧
      manager.SessionsKept manager₁ ∧ ∀ other ∈ left, other ∈ before)
    (fun target left collected manager₁ rng collected' manager' rng' hI hcall => by
      refine ⟨haside hI.1 hcall, hI.2.1.trans (hspared hI.1.bounded ?_ hcall),
        fun other hmem => hI.2.2 other (List.mem_cons_of_mem _ hmem)⟩
      rw [hI.1.identity, hI.1.deviceRecord now]
      exact hbeforeSpared target (hI.2.2 target List.mem_cons_self))
    ⟨aside_start hnodup hbounded, SessionsKept.refl manager, fun _ hmem => hmem⟩ hbefore
  exact hend.2.1.trans (hlast hmiddle (List.mem_append_right _ List.mem_cons_self) htarget)

theorem prepareExplicitSend_kept {manager manager' : SessionManager K T}
    {recipientOwner : OwnerPubkey K} {relayGaps : List (RelayGap K)} {request : SendRequest K T}
    {rng rng' : Rng K} {e : Error} (hbounded : manager.All DeviceRecord.Bounded)
    (hone : request.allSessions = false) (hsafe : manager.FailsSafely request)
    (h : manager.prepareExplicitSend recipientOwner request.targets request.payload relayGaps
      request.refresh request.now rng = (.error e, manager', rng')) :
    manager.SessionsKept manager' := by
  unfold prepareExplicitSend at h
  split at h
  · rename_i e₁ manager₁ rng₁ hfan
    cases h
    refine fanOut_kept (F := manager.MayFail request)
      (fun hI hcall => hI.prepareTarget hcall)
      (fun hbounded hspared hcall => prepareTarget_kept hbounded hspared hcall)
      (fun hI hcall => ?_) (fun _ _ hcall => (prepareTarget_error hcall).1)
      (fun before target after hsplit hfails => (hsafe before target after hsplit hfails).1)
      (nodup_targetSet request.targets) hbounded hfan
    have hfails := (prepareTarget_error hcall).2
    rw [hI.identity, hI.deviceRecord request.now] at hfails
    unfold MayFail
    rw [hone, if_neg Bool.false_ne_true]
    exact hfails
  · cases h

theorem prepareReusingAll_kept {manager manager' : SessionManager K T} {payload : T}
    {now : UnixSeconds} {rng rng' : Rng K} {e : Error}
    (hbounded : manager.All DeviceRecord.Bounded)
    (hsafe : manager.FailsSafely
      ⟨manager.collectLocalSiblingTargets, payload, now, false, true⟩)
    (h : manager.prepareLocalSiblingSendReusingAllSessions payload now rng =
      (.error e, manager', rng')) : manager.SessionsKept manager' := by
  have hmayFail : ∀ {target rest collected manager₁ rng manager' rng'},
      Aside manager (target :: rest) manager₁ →
      prepareTargetAllSessions payload now manager₁ target collected rng =
        (.error e, manager', rng') →
      manager.MayFail ⟨manager.collectLocalSiblingTargets, payload, now, false, true⟩ target := by
    intro target rest collected manager₁ rng manager' rng' hI hcall
    have hfails := (prepareTargetAllSessions_error (hI.deviceRecord now) hI.bounded hcall).1
    rw [hI.identity] at hfails
    unfold MayFail
    rw [if_pos rfl]
    exact hfails
  unfold prepareLocalSiblingSendReusingAllSessions at h
  split at h
  · rename_i e₁ manager₁ rng₁ hfan
    cases h
    refine fanOut_kept (F := manager.MayFail _)
      (fun hI hcall => hI.prepareTargetAllSessions hcall)
      (fun hbounded hspared hcall => prepareTargetAllSessions_kept hbounded hspared hcall)
      (fun hI hcall => hmayFail hI hcall) (fun hI hmem hcall => ?_)
      (fun before target after hsplit hfails => (hsafe before target after hsplit hfails).1)
      (nodup_targetSet _) hbounded hfan
    refine (prepareTargetAllSessions_error (hI.deviceRecord now) hI.bounded hcall).2 ?_
    obtain ⟨before, after, hsplit⟩ := List.mem_iff_append.mp hmem
    exact (hsafe before _ after hsplit (hmayFail hI hcall)).2 rfl
  · cases h

end

end SessionManager

section Manager

variable [DecidableEq T] [Primitives K T] [EventPrimitives K] [InvitePrimitives K T]

namespace SessionManager

omit [DecidableEq T] [Primitives K T] [EventPrimitives K] [InvitePrimitives K T] in
/-- What each sending call is asked to do. -/
def sendRequest (manager : SessionManager K T) : Operation K T → Option (SendRequest K T)
  | .prepareSend recipientOwner payload now =>
      some ⟨(manager.collectRecipientTargets recipientOwner).1 ++
        manager.collectLocalSiblingTargets, payload, now, false, false⟩
  | .prepareRemoteSend recipientOwner payload now =>
      some ⟨(manager.collectRecipientTargets recipientOwner).1, payload, now, false, false⟩
  | .prepareRemoteSendToDevices recipientOwner devices payload now =>
      some ⟨devices.map (⟨recipientOwner, ·⟩), payload, now, false, false⟩
  | .prepareLocalSiblingSend payload now =>
      some ⟨manager.collectLocalSiblingTargets, payload, now, false, false⟩
  | .prepareLocalSiblingSendToDevices devices payload now =>
      some ⟨devices.map (⟨manager.localOwnerPubkey, ·⟩), payload, now, false, false⟩
  | .prepareLocalSiblingSendReusingSessions payload now =>
      some ⟨manager.collectLocalSiblingTargets, payload, now, false, false⟩
  | .prepareLocalSiblingSendRefreshingOneWaySessions payload now =>
      some ⟨manager.collectLocalSiblingTargets, payload, now, true, false⟩
  | .prepareLocalSiblingSendReusingAllSessions payload now =>
      some ⟨manager.collectLocalSiblingTargets, payload, now, false, true⟩
  | _ => none

omit [DecidableEq T] [Primitives K T] [EventPrimitives K] [InvitePrimitives K T] in
private theorem prepared_error {outcome : Outcome K T (PreparedSend K T)}
    {manager : SessionManager K T} {rng : Rng K} {e : Error}
    (h : prepared outcome = (.error e, manager, rng)) : outcome = (.error e, manager, rng) := by
  obtain ⟨result, manager', rng'⟩ := outcome
  cases result with
  | error e₁ =>
      cases h
      rfl
  | ok send => cases h

end SessionManager

end Manager

namespace Symbolic

def laptop : DevicePubkey KeyTerm := ⟨.point (.secret 2)⟩

def phone : DevicePubkey KeyTerm := ⟨.point (.secret 7)⟩

/-- An invite of the version before, which cannot be accepted. -/
def oldInvite : Invite KeyTerm TextTerm where
  metadataPrivacyVersion := 1
  inviterDevicePubkey := phone
  inviterEphemeralPublicKey := ⟨.point (.secret 8)⟩
  sharedSecret := .secret 9
  inviterEphemeralPrivateKey := none
  maxUses := none
  usedBy := []
  usedResponseContents := []
  createdAt := 0
  inviterOwnerPubkey := some alice
  purpose := none
  inviter := .point (.secret 7)
  deviceId := none
  ownerPublicKey := none

/-- The local owner has a session with one device and the old invite of another. -/
def siblings : List (Operation KeyTerm TextTerm) :=
  [.applyLocalRoster ⟨0, [⟨laptop, 0⟩, ⟨phone, 0⟩]⟩,
    .importSessionState alice laptop (sendingState 0) 0,
    .observeDeviceInvite alice oldInvite]

/-- The old invite alone, next to a session with another owner. -/
def oneSibling : List (Operation KeyTerm TextTerm) :=
  [.applyLocalRoster ⟨0, [⟨phone, 0⟩]⟩, .importSessionState bob bobDevice (sendingState 0) 0,
    .observeDeviceInvite alice oldInvite]

end Symbolic

end NostrDoubleRatchet
