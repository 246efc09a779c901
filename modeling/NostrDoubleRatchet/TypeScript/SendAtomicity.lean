import NostrDoubleRatchet.Symbolic
import NostrDoubleRatchet.TypeScript.DoubleRatchet
import NostrDoubleRatchet.TypeScript.SessionRecords

/-!
What a failed send leaves behind. `sendEvent` moves the sending chain before the message is
sealed, so that a text that NIP-44 refuses has moved the chain all the same, and
`sendEventWithBestSession`, which goes on with the next session, moves the chain of each session
that it tries.
-/

namespace NostrDoubleRatchet.TypeScript.DoubleRatchet

section

variable {K T : Type} [LinearOrder K] [Primitives K T]

/-- What `sendEvent` seals once its checks are passed: our current key and the inner event. -/
def outgoing (codec : RumorCodec T) (state : SessionState K) (event : PartialEvent)
    (outerTags : List (List String)) (now : Nat) : Option (SerializableKeyPair K × JsonValue) := do
  guard (state.metadataPrivacyVersion = some METADATA_PRIVACY_VERSION)
  guard (¬ (outerTags.any (fun tag => !isRecipientTag tag) || outerTags.length > 1) = true)
  let ourCurrent ← state.ourCurrentNostrKey
  guard (event.hasSig = false)
  let kind ← event.kind
  let fields := innerFields event kind now
  let id ← (codec.getEventHash (.object fields)).toOption
  let _ ← state.sendingChainKey
  pure (ourCurrent, .object (fields ++ [("id", .string id)]))

/-- The steps after the ratchet succeed: both texts have a length that NIP-44 takes, and the keys
are keys. -/
structure Finishes (inRange : T → Bool) (codec : RumorCodec T) (state : SessionState K)
    (ourCurrent : SerializableKeyPair K) (rumor : JsonValue) : Prop where
  body : inRange (codec.jsonStringify rumor) = true
  header : inRange (Primitives.headerToJson state.nextHeader) = true
  shared : (getConversationKey (T := T) ourCurrent.privateKey state.theirNextNostrPublicKey).isOk =
    true
  signer : (getPublicKey (T := T) ourCurrent.privateKey).isOk = true

/-- The checks are passed and every later step succeeds. -/
def Sends (inRange : T → Bool) (codec : RumorCodec T) (state : SessionState K)
    (event : PartialEvent) (outerTags : List (List String)) (now : Nat) : Prop :=
  ∃ ourCurrent rumor, outgoing codec state event outerTags now = some (ourCurrent, rumor) ∧
    Finishes inRange codec state ourCurrent rumor

/-- The checks are passed and a later step fails. -/
def Burns (inRange : T → Bool) (codec : RumorCodec T) (state : SessionState K)
    (event : PartialEvent) (outerTags : List (List String)) (now : Nat) : Prop :=
  ∃ ourCurrent rumor, outgoing codec state event outerTags now = some (ourCurrent, rumor) ∧
    ¬ Finishes inRange codec state ourCurrent rumor

/-- NIP-44 throws exactly for the lengths out of its range. -/
def SizeLaw (K : Type) {T : Type} [Primitives K T] (inRange : T → Bool) : Prop :=
  ∀ (key nonce : K) (text : T), (Primitives.encryptToBytes key nonce text).isOk = inRange text

variable {inRange : T → Bool} {codec : RumorCodec T} {state : SessionState K}
  {event : PartialEvent} {outerTags : List (List String)} {now : Nat} {bodyNonce headerNonce : K}

omit [LinearOrder K] in
theorem isOk_nip44Encrypt (hsize : SizeLaw K inRange) (text : T) (key nonce : K) :
    (nip44Encrypt text key nonce).isOk = inRange text := by
  rw [← hsize key nonce text]
  unfold nip44Encrypt
  cases Primitives.encryptToBytes key nonce text with
  | ok bytes => rfl
  | error message => rfl

/-- The state after the ratchet step of a send. -/
def SessionState.advanced (state : SessionState K) (sendingChainKey : K) : SessionState K :=
  { state with
    sendingChainKey := some (chainStep (T := T) sendingChainKey).1
    sendingChainMessageNumber := state.sendingChainMessageNumber + 1 }

/-- Each check that fails leaves the state as it was; past them the result and the state are those
of the ratchet step. -/
theorem sendEvent_cases (codec : RumorCodec T) (state : SessionState K) (event : PartialEvent)
    (outerTags : List (List String)) (now : Nat) (bodyNonce headerNonce : K) :
    (outgoing codec state event outerTags now = none ∧ ∃ message,
      sendEvent codec state event outerTags now bodyNonce headerNonce = (.error message, state)) ∨
    ∃ ourCurrent rumor sendingChainKey,
      outgoing codec state event outerTags now = some (ourCurrent, rumor) ∧
      state.sendingChainKey = some sendingChainKey ∧
      sendEvent codec state event outerTags now bodyNonce headerNonce =
        ((do
          let encryptedData ←
            nip44Encrypt (codec.jsonStringify rumor) (chainStep sendingChainKey).2 bodyNonce
          let message ← messageEvent (state.advanced (T := T) sendingChainKey) ourCurrent outerTags
            now headerNonce state.nextHeader encryptedData
          pure (message, rumor)), state.advanced (T := T) sendingChainKey) := by
  unfold sendEvent
  by_cases hversion : state.metadataPrivacyVersion = some METADATA_PRIVACY_VERSION
  · rw [if_neg (not_not.mpr hversion)]
    by_cases htags : (outerTags.any (fun tag => !isRecipientTag tag) || outerTags.length > 1) = true
    · rw [if_pos htags]
      refine .inl ⟨?_, _, rfl⟩
      simp [outgoing, guard, hversion, htags]
    · rw [if_neg htags]
      cases hcurrent : state.ourCurrentNostrKey with
      | none =>
          refine .inl ⟨?_, _, rfl⟩
          simp [outgoing, guard, hcurrent]
      | some ourCurrent =>
          dsimp only
          by_cases hsig : event.hasSig = true
          · rw [if_pos hsig]
            refine .inl ⟨?_, _, rfl⟩
            simp [outgoing, guard, hsig]
          · rw [if_neg hsig]
            cases hkind : event.kind with
            | none =>
                refine .inl ⟨?_, _, rfl⟩
                simp [outgoing, guard, hkind]
            | some kind =>
                dsimp only
                cases hhash : codec.getEventHash (.object (innerFields event kind now)) with
                | error message =>
                    refine .inl ⟨?_, _, rfl⟩
                    simp [outgoing, guard, hkind, hhash, Except.toOption]
                | ok id =>
                    dsimp only
                    cases hchain : state.sendingChainKey with
                    | none =>
                        refine .inl ⟨?_, typeError, ?_⟩
                        · simp [outgoing, guard, hchain]
                        · unfold ratchetEncrypt
                          rw [hchain]
                          rfl
                    | some sendingChainKey =>
                        refine .inr ⟨ourCurrent, .object (innerFields event kind now ++
                          [("id", .string id)]), sendingChainKey, ?_, rfl, ?_⟩
                        · simp [outgoing, guard, hversion, htags, hcurrent, hsig, hkind, hhash,
                            hchain, Except.toOption]
                        · unfold ratchetEncrypt
                          rw [hchain]
                          dsimp only
                          cases nip44Encrypt (codec.jsonStringify (.object
                            (innerFields event kind now ++ [("id", .string id)])))
                              (chainStep sendingChainKey).2 bodyNonce with
                          | error message => rfl
                          | ok encryptedData => rfl
  · rw [if_pos hversion]
    refine .inl ⟨?_, _, rfl⟩
    simp [outgoing, guard, hversion]

theorem isOk_messageEvent (hsize : SizeLaw K inRange) (ourCurrent : SerializableKeyPair K)
    (header : Header K) (encryptedData : T) :
    (messageEvent state ourCurrent outerTags now headerNonce header encryptedData).isOk = true ↔
      (getConversationKey (T := T) ourCurrent.privateKey state.theirNextNostrPublicKey).isOk =
          true ∧
        inRange (Primitives.headerToJson header) = true ∧
        (getPublicKey (T := T) ourCurrent.privateKey).isOk = true := by
  unfold messageEvent
  cases getConversationKey (T := T) ourCurrent.privateKey state.theirNextNostrPublicKey with
  | error message =>
      constructor
      · intro h
        cases h
      · rintro ⟨h, -⟩
        cases h
  | ok sharedSecret =>
      have hheader := isOk_nip44Encrypt hsize (Primitives.headerToJson header) sharedSecret
        headerNonce
      rw [← hheader]
      change ((nip44Encrypt (Primitives.headerToJson header) sharedSecret headerNonce) >>= _).isOk =
        true ↔ _
      cases nip44Encrypt (Primitives.headerToJson header) sharedSecret headerNonce with
      | error message =>
          constructor
          · intro h
            cases h
          · rintro ⟨-, h, -⟩
            cases h
      | ok encryptedHeader =>
          change ((getPublicKey (T := T) ourCurrent.privateKey) >>= _).isOk = true ↔ _
          cases getPublicKey (T := T) ourCurrent.privateKey with
          | error message =>
              constructor
              · intro h
                cases h
              · rintro ⟨-, -, h⟩
                cases h
          | ok pubkey => exact ⟨fun _ => ⟨rfl, rfl, rfl⟩, fun _ => rfl⟩

/-- Past the checks the chain has moved, and an event comes out exactly when every later step
succeeds. -/
theorem sendEvent_of_some (hsize : SizeLaw K inRange) (bodyNonce headerNonce : K)
    {ourCurrent : SerializableKeyPair K} {rumor : JsonValue}
    (h : outgoing codec state event outerTags now = some (ourCurrent, rumor)) :
    (sendEvent codec state event outerTags now bodyNonce headerNonce).2 ≠ state ∧
      ((sendEvent codec state event outerTags now bodyNonce headerNonce).1.isOk = true ↔
        Finishes inRange codec state ourCurrent rumor) := by
  obtain ⟨hnone, -⟩ | ⟨ourCurrent', rumor', sendingChainKey, hsome, -, hsend⟩ :=
    sendEvent_cases codec state event outerTags now bodyNonce headerNonce
  · rw [hnone] at h
    cases h
  · rw [hsome] at h
    cases h
    rw [hsend]
    constructor
    · intro heq
      have hnumber := congrArg SessionState.sendingChainMessageNumber heq
      exact absurd hnumber (Nat.succ_ne_self _)
    · have hbody := isOk_nip44Encrypt hsize (codec.jsonStringify rumor)
        (chainStep (T := T) sendingChainKey).2 bodyNonce
      have hmessage : ∀ encryptedData,
          (messageEvent (state.advanced (T := T) sendingChainKey) ourCurrent outerTags now
            headerNonce state.nextHeader encryptedData).isOk = true ↔ _ :=
        isOk_messageEvent hsize ourCurrent state.nextHeader
      dsimp only
      cases hencrypt : nip44Encrypt (codec.jsonStringify rumor)
          (chainStep (T := T) sendingChainKey).2 bodyNonce with
      | error message =>
          rw [hencrypt] at hbody
          constructor
          · intro hok
            cases hok
          · intro hfinishes
            rw [hfinishes.body] at hbody
            cases hbody
      | ok encryptedData =>
          rw [hencrypt] at hbody
          have hpure : ∀ result : Except String (MessageEvent K T),
              (result >>= fun message => pure (message, rumor)).isOk = result.isOk := by
            intro result
            cases result with
            | error message => rfl
            | ok message => rfl
          change ((messageEvent (state.advanced (T := T) sendingChainKey) ourCurrent outerTags now
            headerNonce state.nextHeader encryptedData) >>= fun message =>
              pure (message, rumor)).isOk = true ↔ _
          rw [hpure, hmessage]
          constructor
          · rintro ⟨hshared, hheader, hsigner⟩
            exact ⟨hbody.symm, hheader, hshared, hsigner⟩
          · intro hfinishes
            exact ⟨hfinishes.shared, hfinishes.header, hfinishes.signer⟩

/-- A failed send leaves the state as it was exactly when it fails before the ratchet. -/
theorem sendEvent_unchanged_iff (hsize : SizeLaw K inRange) :
    (∀ message, (sendEvent codec state event outerTags now bodyNonce headerNonce).1 =
        .error message →
      (sendEvent codec state event outerTags now bodyNonce headerNonce).2 = state) ↔
    ¬ Burns inRange codec state event outerTags now := by
  obtain ⟨hnone, message, hsend⟩ | ⟨ourCurrent, rumor, sendingChainKey, hsome, -, -⟩ :=
    sendEvent_cases codec state event outerTags now bodyNonce headerNonce
  · constructor
    · rintro - ⟨ourCurrent, rumor, hsome, -⟩
      rw [hnone] at hsome
      cases hsome
    · intro _ message _
      rw [hsend]
  · obtain ⟨hmoved, hok⟩ := sendEvent_of_some hsize bodyNonce headerNonce hsome
    constructor
    · rintro hsame ⟨ourCurrent', rumor', hsome', hfails⟩
      rw [hsome] at hsome'
      cases hsome'
      cases hresult : (sendEvent codec state event outerTags now bodyNonce headerNonce).1 with
      | error message => exact hmoved (hsame message hresult)
      | ok sent =>
          rw [hresult] at hok
          exact hfails (hok.mp rfl)
    · intro hburns message hresult
      rw [hresult] at hok
      have hfinishes : ¬ Finishes inRange codec state ourCurrent rumor := fun hfinishes =>
        absurd (hok.mpr hfinishes) Bool.false_ne_true
      exact absurd ⟨ourCurrent, rumor, hsome, hfinishes⟩ hburns

end

/-! The sessions of a device, as `DeviceRecordActor.ts` sends on them. -/

/-- The lists name the session objects, none twice. -/
structure SendDevice (K : Type) [LinearOrder K] where
  deviceId : String
  activeSession : Option String
  inactiveSessions : List String
  distinct : (activeSession.toList ++ inactiveSessions).Nodup
  states : String → SessionState K

section

variable {K T : Type} [LinearOrder K] [Primitives K T]

namespace SendDevice

def setState (device : SendDevice K) (name : String) (state : SessionState K) : SendDevice K :=
  { device with states := Function.update device.states name state }

@[simp] theorem states_setState_self (device : SendDevice K) (name : String)
    (state : SessionState K) : (device.setState name state).states name = state := by
  unfold setState
  exact Function.update_self name state device.states

theorem states_setState_of_ne (device : SendDevice K) {name other : String} (h : other ≠ name)
    (state : SessionState K) : (device.setState name state).states other = device.states other := by
  unfold setState
  exact Function.update_of_ne h state device.states

/-- `promoteToActive` with `force`. -/
def promoteToActive (device : SendDevice K) (nextSession : String) : SendDevice K :=
  let rest := device.inactiveSessions.filter (· ≠ nextSession)
  if hcurrent : device.activeSession = some nextSession then
    { device with
      inactiveSessions := rest
      distinct := device.distinct.sublist ((List.Sublist.refl _).append List.filter_sublist) }
  else
    { device with
      activeSession := some nextSession
      inactiveSessions := (device.activeSession.toList ++ rest).take
        SessionRecords.MAX_INACTIVE_SESSIONS
      distinct := by
        have hrest : (device.activeSession.toList ++ rest).Nodup :=
          device.distinct.sublist ((List.Sublist.refl _).append List.filter_sublist)
        have hnew : nextSession ∉ device.activeSession.toList ++ rest := by
          intro hmem
          obtain hactive | hinactive := List.mem_append.mp hmem
          · exact hcurrent (Option.mem_toList.mp hactive)
          · exact absurd rfl (of_decide_eq_true (List.mem_filter.mp hinactive).2)
        refine List.nodup_cons.mpr ⟨?_, hrest.sublist (List.take_sublist _ _)⟩
        exact fun hmem => hnew (List.mem_of_mem_take hmem) }

@[simp] theorem states_promoteToActive (device : SendDevice K) (name : String) :
    (device.promoteToActive name).states = device.states := by
  unfold promoteToActive
  dsimp only
  split
  · rfl
  · rfl

def canSend (state : SessionState K) : Bool :=
  state.metadataPrivacyVersion = some METADATA_PRIVACY_VERSION && state.ourCurrentNostrKey.isSome

def canReceive (state : SessionState K) : Bool :=
  state.metadataPrivacyVersion = some METADATA_PRIVACY_VERSION &&
    (state.receivingChainKey.isSome || state.theirCurrentNostrPublicKey.isSome ||
      state.receivingChainMessageNumber > 0)

def sendSessionPriority (state : SessionState K) (active : Bool) : List Nat :=
  [if canSend state && canReceive state then 3 else if canSend state then 2
    else if canReceive state then 1 else 0,
    if active && canReceive state then 1 else 0, state.receivingChainMessageNumber,
    state.previousSendingChainMessageCount, state.sendingChainMessageNumber]

def sortedSendableSessionCandidates (device : SendDevice K) : List String :=
  let priority := fun name =>
    sendSessionPriority (device.states name) (device.activeSession = some name)
  let candidates := (device.activeSession.toList ++ device.inactiveSessions).filter
    (fun name => canSend (device.states name))
  candidates.mergeSort (fun left right =>
    decide (SessionRecords.compareSessionPriority (priority right) (priority left) ≤ 0))

/-- The loop of `sendEventWithBestSession`; each send has a time and nonces of its own. -/
def trySessions (codec : RumorCodec T) (rumor : PartialEvent) (now : String → Nat)
    (nonces : String → K × K) :
    List String → SendDevice K → SendDevice K × Option (String × MessageEvent K T)
  | [], device => (device, none)
  | name :: rest, device =>
      let (result, state) := sendEvent codec (device.states name) rumor [["p", device.deviceId]]
        (now name) (nonces name).1 (nonces name).2
      let sent := device.setState name state
      match result with
      | .ok (message, _) =>
          (if device.activeSession = some name then sent else sent.promoteToActive name,
            some (name, message))
      | .error _ => trySessions codec rumor now nonces rest sent

def sendEventWithBestSession (codec : RumorCodec T) (rumor : PartialEvent) (now : String → Nat)
    (nonces : String → K × K) (device : SendDevice K) :
    SendDevice K × Option (String × MessageEvent K T) :=
  trySessions codec rumor now nonces device.sortedSendableSessionCandidates device

variable {inRange : T → Bool} {codec : RumorCodec T} {rumor : PartialEvent} {now : String → Nat}
  {nonces : String → K × K}

/-- A session that is not tried is neither changed nor sent on. -/
theorem trySessions_of_not_mem (codec : RumorCodec T) (rumor : PartialEvent)
    (now : String → Nat) (nonces : String → K × K) {name : String} {candidates : List String}
    (h : name ∉ candidates) (device : SendDevice K) :
    (trySessions codec rumor now nonces candidates device).1.states name = device.states name ∧
      ∀ message, (trySessions codec rumor now nonces candidates device).2 ≠
        some (name, message) := by
  induction candidates generalizing device with
  | nil => exact ⟨rfl, fun message hsent => by cases hsent⟩
  | cons first rest ih =>
      obtain ⟨hne, hrest⟩ := not_or.mp (fun hmem => h (List.mem_cons.mpr hmem))
      have hkept := device.states_setState_of_ne hne
      rw [trySessions]
      generalize sendEvent codec (device.states first) rumor [["p", device.deviceId]] (now first)
        (nonces first).1 (nonces first).2 = outcome
      obtain ⟨result, state⟩ := outcome
      dsimp only
      cases result with
      | error message =>
          dsimp only
          rw [← hkept state]
          exact ih hrest (device.setState first state)
      | ok sent =>
          dsimp only
          refine ⟨?_, fun message hsent => hne ?_⟩
          · split
            · exact hkept state
            · rw [states_promoteToActive]
              exact hkept state
          · cases hsent
            rfl

theorem setState_self (device : SendDevice K) (name : String) :
    device.setState name (device.states name) = device := by
  unfold setState
  rw [Function.update_eq_self]

/-- No session that was tried moves its chain without sending. -/
def NoneBurns (inRange : T → Bool) (codec : RumorCodec T) (rumor : PartialEvent)
    (now : String → Nat) (candidates : List String) (device : SendDevice K) : Prop :=
  ∀ before name after, candidates = before ++ name :: after →
    (∀ earlier ∈ before, ¬ Sends inRange codec (device.states earlier) rumor
      [["p", device.deviceId]] (now earlier)) →
    ¬ Burns inRange codec (device.states name) rumor [["p", device.deviceId]] (now name)

theorem noneBurns_cons {name : String} {rest : List String} {device : SendDevice K} :
    NoneBurns inRange codec rumor now (name :: rest) device ↔
      ¬ Burns inRange codec (device.states name) rumor [["p", device.deviceId]] (now name) ∧
      (¬ Sends inRange codec (device.states name) rumor [["p", device.deviceId]] (now name) →
        NoneBurns inRange codec rumor now rest device) := by
  constructor
  · intro hnone
    refine ⟨hnone [] name rest rfl (fun earlier hmem => absurd hmem List.not_mem_nil), ?_⟩
    intro hfails before later after hsplit hbefore
    refine hnone (name :: before) later after (congrArg (name :: ·) hsplit) ?_
    intro earlier hmem
    obtain rfl | hmem := List.mem_cons.mp hmem
    · exact hfails
    · exact hbefore earlier hmem
  · rintro ⟨hname, hrest⟩ before later after hsplit hbefore
    cases before with
    | nil =>
        cases hsplit
        exact hname
    | cons first before =>
        cases hsplit
        exact hrest (hbefore name List.mem_cons_self) before later after rfl
          (fun earlier hmem => hbefore earlier (List.mem_cons_of_mem _ hmem))

/-- The sessions that did not send the event are as they were exactly when none of those tried
fails past its checks. -/
theorem trySessions_unchanged_iff (hsize : SizeLaw K inRange) {candidates : List String}
    (hdistinct : candidates.Nodup) (device : SendDevice K) :
    (∀ name, (∀ message, (trySessions codec rumor now nonces candidates device).2 ≠
        some (name, message)) →
      (trySessions codec rumor now nonces candidates device).1.states name =
        device.states name) ↔
    NoneBurns inRange codec rumor now candidates device := by
  induction candidates with
  | nil =>
      refine ⟨fun _ before name after hsplit => ?_, fun _ name _ => rfl⟩
      cases before <;> cases hsplit
  | cons first rest ih =>
      obtain ⟨hfirst, hrest⟩ := List.nodup_cons.mp hdistinct
      rw [noneBurns_cons]
      obtain ⟨hnone, message, hsend⟩ | ⟨ourCurrent, inner, sendingChainKey, hsome, -, -⟩ :=
        sendEvent_cases codec (device.states first) rumor [["p", device.deviceId]] (now first)
          (nonces first).1 (nonces first).2
      · -- The checks fail: the session is passed over.
        have hnext : trySessions codec rumor now nonces (first :: rest) device =
            trySessions codec rumor now nonces rest device := by
          rw [trySessions, hsend]
          dsimp only
          rw [setState_self]
        have hblocked : ∀ ourCurrent inner, outgoing codec (device.states first) rumor
            [["p", device.deviceId]] (now first) ≠ some (ourCurrent, inner) := by
          intro ourCurrent inner hsome
          rw [hnone] at hsome
          cases hsome
        rw [hnext, ih hrest]
        constructor
        · intro hlater
          refine ⟨?_, fun _ => hlater⟩
          rintro ⟨ourCurrent, inner, hsome, -⟩
          exact hblocked ourCurrent inner hsome
        · rintro ⟨-, hlater⟩
          apply hlater
          rintro ⟨ourCurrent, inner, hsome, -⟩
          exact hblocked ourCurrent inner hsome
      · obtain ⟨hmoved, hok⟩ := sendEvent_of_some hsize (nonces first).1 (nonces first).2 hsome
        cases hsend : sendEvent codec (device.states first) rumor [["p", device.deviceId]]
            (now first) (nonces first).1 (nonces first).2 with
        | mk result state =>
            rw [hsend] at hmoved hok
            rw [trySessions, hsend]
            dsimp only at hmoved hok ⊢
            cases result with
            | ok sent =>
                -- The event is sent on this session, and no other is touched.
                have hfinishes := hok.mp rfl
                constructor
                · intro _
                  refine ⟨?_, fun hfails => absurd ⟨ourCurrent, inner, hsome, hfinishes⟩ hfails⟩
                  rintro ⟨ourCurrent', inner', hsome', hfails⟩
                  rw [hsome] at hsome'
                  cases hsome'
                  exact hfails hfinishes
                · intro _ name hother
                  have hne : name ≠ first := by
                    rintro rfl
                    exact hother sent.1 rfl
                  have hkept := device.states_setState_of_ne hne state
                  dsimp only
                  split
                  · exact hkept
                  · rw [states_promoteToActive]
                    exact hkept
            | error message =>
                -- The chain has moved without an event; the sessions that follow do not undo it.
                have hburns : Burns inRange codec (device.states first) rumor
                    [["p", device.deviceId]] (now first) := by
                  refine ⟨ourCurrent, inner, hsome, fun hfinishes => ?_⟩
                  exact absurd (hok.mpr hfinishes) Bool.false_ne_true
                constructor
                · intro hsame
                  obtain ⟨hstates, hsent⟩ := trySessions_of_not_mem codec rumor now nonces hfirst
                    (device.setState first state)
                  have hkept := hsame first hsent
                  rw [hstates, states_setState_self] at hkept
                  exact absurd hkept hmoved
                · rintro ⟨hnot, -⟩
                  exact absurd hburns hnot

theorem nodup_candidates (device : SendDevice K) :
    device.sortedSendableSessionCandidates.Nodup :=
  (List.mergeSort_perm _ _).nodup_iff.mpr (device.distinct.filter _)

end SendDevice

/-- A failed send leaves the session as it was exactly when it does not fail after its checks, and
a send on the best session moves no other session exactly when none of those tried does. -/
theorem send_atomic_iff {inRange : T → Bool} (hsize : SizeLaw K inRange) (codec : RumorCodec T) :
    (∀ (state : SessionState K) (event : PartialEvent) (outerTags : List (List String)) (now : Nat)
      (bodyNonce headerNonce : K),
      (∀ message, (sendEvent codec state event outerTags now bodyNonce headerNonce).1 =
          .error message →
        (sendEvent codec state event outerTags now bodyNonce headerNonce).2 = state) ↔
      ¬ Burns inRange codec state event outerTags now) ∧
    ∀ (device : SendDevice K) (rumor : PartialEvent) (now : String → Nat)
      (nonces : String → K × K),
      (∀ name, (∀ message, (device.sendEventWithBestSession codec rumor now nonces).2 ≠
          some (name, message)) →
        (device.sendEventWithBestSession codec rumor now nonces).1.states name =
          device.states name) ↔
      SendDevice.NoneBurns inRange codec rumor now device.sortedSendableSessionCandidates
        device := by
  constructor
  · intro state event outerTags now bodyNonce headerNonce
    exact sendEvent_unchanged_iff hsize
  · intro device rumor now nonces
    exact SendDevice.trySessions_unchanged_iff hsize device.nodup_candidates device

end

/-! A text of one byte too many. -/

namespace LongText

/-- The range of NIP-44 on plain texts. -/
def inRange : TextTerm → Bool
  | .bytes content => 1 ≤ content.toList.length && content.toList.length ≤ 65535
  | _ => true

@[reducible] def primitives : Primitives KeyTerm TextTerm :=
  { Symbolic.primitives with
    encryptToBytes := fun key nonce body =>
      if inRange body then .ok (.sealed key nonce body) else .error "invalid plaintext size" }

attribute [local instance] primitives

theorem sizeLaw : SizeLaw KeyTerm inRange := by
  intro key nonce text
  change (if inRange text then Except.ok (TextTerm.sealed key nonce text)
    else .error "invalid plaintext size" : Except String TextTerm).isOk = inRange text
  cases inRange text with
  | true => rfl
  | false => rfl

/-- The text of an inner event is its content. -/
def codec : RumorCodec TextTerm where
  jsonStringify
    | .object (("content", .string content) :: _) => .bytes content
    | _ => .bytes "null"
  jsonParse _ := .error "SyntaxError"
  validateEvent _ := true
  getEventHash _ := .ok "id"
  describe _ := "event"

def state : SessionState KeyTerm where
  metadataPrivacyVersion := some METADATA_PRIVACY_VERSION
  rootKey := .digest "root"
  theirCurrentNostrPublicKey := none
  theirNextNostrPublicKey := ⟨.point (.secret 1)⟩
  ourCurrentNostrKey := some ⟨⟨.point (.secret 0)⟩, .secret 0⟩
  ourNextNostrKey := ⟨⟨.point (.secret 2)⟩, .secret 2⟩
  receivingChainKey := none
  sendingChainKey := some (.digest "chain")
  sendingChainMessageNumber := 0
  receivingChainMessageNumber := 0
  previousSendingChainMessageCount := 0
  skippedKeys := SortedMap.empty

def event (length : Nat) : PartialEvent where
  kind := some 14
  createdAt := some 5
  tags := none
  content := some (String.ofList (List.replicate length 'a'))
  pubkey := none
  hasSig := false

theorem outgoing_event (length : Nat) : ∃ fields,
    outgoing codec state (event length) [] 7000 = some (⟨⟨.point (.secret 0)⟩, .secret 0⟩,
      .object (("content", .string (String.ofList (List.replicate length 'a'))) :: fields)) :=
  ⟨_, rfl⟩

theorem inRange_event (length : Nat) :
    inRange (.bytes (String.ofList (List.replicate length 'a'))) =
      (1 ≤ length && length ≤ 65535) := by
  change (decide (1 ≤ (String.ofList (List.replicate length 'a')).toList.length) &&
    decide ((String.ofList (List.replicate length 'a')).toList.length ≤ 65535)) = _
  rw [String.toList_ofList, List.length_replicate]

/-- The send fails and the chain has moved. -/
theorem long_text_moves_chain :
    ¬ ∀ message, (sendEvent codec state (event 65536) [] 7000 (.digest "") (.digest "")).1 =
        .error message →
      (sendEvent codec state (event 65536) [] 7000 (.digest "") (.digest "")).2 = state := by
  rw [sendEvent_unchanged_iff sizeLaw, not_not]
  obtain ⟨fields, hsome⟩ := outgoing_event 65536
  refine ⟨_, _, hsome, fun hfinishes => ?_⟩
  have hbody := hfinishes.body
  change inRange (.bytes (String.ofList (List.replicate 65536 'a'))) = true at hbody
  rw [inRange_event] at hbody
  revert hbody
  decide

/-- A text in range is sent. -/
theorem short_text_sends : SizeLaw KeyTerm inRange ∧
    ∀ message, (sendEvent codec state (event 5) [] 7000 (.digest "") (.digest "")).1 =
        .error message →
      (sendEvent codec state (event 5) [] 7000 (.digest "") (.digest "")).2 = state := by
  refine ⟨sizeLaw, ((send_atomic_iff sizeLaw codec).1 state (event 5) [] 7000 _ _).mpr ?_⟩
  rintro ⟨ourCurrent, rumor, hsome, hfails⟩
  obtain ⟨fields, hsome'⟩ := outgoing_event 5
  rw [hsome'] at hsome
  cases hsome
  refine hfails ⟨?_, rfl, rfl, rfl⟩
  change inRange (.bytes (String.ofList (List.replicate 5 'a'))) = true
  rw [inRange_event]
  rfl

end LongText

end NostrDoubleRatchet.TypeScript.DoubleRatchet
