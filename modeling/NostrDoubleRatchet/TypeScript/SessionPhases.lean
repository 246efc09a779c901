import NostrDoubleRatchet.TypeScript.DoubleRatchet

/-!
One party of an honest exchange of the TypeScript client. Its phase `q` is that of the key
schedule: it sends on chain `q - 1` and receives on chain `q - 2`, and `lengths` says how far each
chain has got. The party keeps the key of every message it has passed and not accepted, so it
accepts a message of the peer if and only if it has not accepted it before.
-/

namespace NostrDoubleRatchet.TypeScript.DoubleRatchet

open KeySchedule

section

variable {K T : Type} [LinearOrder K] [Primitives K T]

structure AtPhase (secrets : Nat → K) (shared : K) (lengths : Nat → Nat) (q received : Nat)
    (state : SessionState K) : Prop where
  version : state.metadataPrivacyVersion = some METADATA_PRIVACY_VERSION
  rootKey : state.rootKey = root secrets shared q
  theirCurrent : state.theirCurrentNostrPublicKey = (back q 2).map (pubkey secrets)
  theirNext : state.theirNextNostrPublicKey = pubkey secrets q
  ourCurrent : state.ourCurrentNostrKey = (back q 1).map (keyPair secrets)
  ourNext : state.ourNextNostrKey = keyPair secrets (q + 1)
  receivingChain : state.receivingChainKey =
    (back q 2).map (fun c => chainKey secrets shared c received)
  sendingChain : state.sendingChainKey =
    (back q 1).map (fun c => chainKey secrets shared c (lengths c))
  sendingNumber : state.sendingChainMessageNumber = ((back q 1).map lengths).getD 0
  receivingNumber : state.receivingChainMessageNumber = received
  previousCount : state.previousSendingChainMessageCount = ((back q 3).map lengths).getD 0

/-- The header of message `p` of chain `c`. -/
def chainHeader (secrets : Nat → K) (lengths : Nat → Nat) (c p : Nat) : Header K where
  number := p
  previousChainLength := ((back c 2).map lengths).getD 0
  nextPublicKey := pubkey secrets (c + 2)

/-- `event` is message `p` of chain `c`, and `text` is what it seals. -/
structure HonestEvent (secrets : Nat → K) (shared : K) (lengths : Nat → Nat) (c p : Nat) (text : T)
    (event : MessageEvent K T) : Prop where
  version : event.hasMetadataPrivacyVersion = true
  sender : event.pubkey = pubkey secrets c
  header : ∃ nonce encryptedHeader, event.header = some encryptedHeader ∧
    nip44Encrypt (Primitives.headerToJson (chainHeader secrets lengths c p))
      (agreed (secrets c) (secrets (c + 1))) nonce = .ok encryptedHeader
  body : ∃ nonce,
    nip44Encrypt text (messageKey secrets shared c p) nonce = .ok event.content

variable {secrets secrets' : Nat → K} {shared : K} {lengths lengths' : Nat → Nat}
  {q received c p n : Nat} {state : SessionState K} {text : T} {event : MessageEvent K T}

theorem AtPhase.congr (h : AtPhase secrets shared lengths q received state)
    (hagree : ∀ i < n, secrets i = secrets' i) (hn : q + 1 < n) :
    AtPhase secrets' shared lengths q received state where
  version := h.version
  rootKey := h.rootKey.trans (root_congr hagree shared hn)
  theirCurrent := h.theirCurrent.trans
    (map_back_congr (fun i hi => pubkey_congr hagree (by omega)))
  theirNext := h.theirNext.trans (pubkey_congr hagree (by omega))
  ourCurrent := h.ourCurrent.trans
    (map_back_congr (fun i hi => keyPair_congr hagree (by omega)))
  ourNext := h.ourNext.trans (keyPair_congr hagree hn)
  receivingChain := h.receivingChain.trans
    (map_back_congr (fun i hi => chainKey_congr hagree shared (by omega)))
  sendingChain := h.sendingChain.trans
    (map_back_congr (fun i hi => chainKey_congr hagree shared (by omega)))
  sendingNumber := h.sendingNumber
  receivingNumber := h.receivingNumber
  previousCount := h.previousCount

/-- A party's view depends on the lengths of its own chains. -/
theorem AtPhase.of_lengths (h : AtPhase secrets shared lengths q received state)
    (hlengths : ∀ c, c % 2 ≠ q % 2 → lengths c = lengths' c) :
    AtPhase secrets shared lengths' q received state where
  __ := h
  sendingChain := h.sendingChain.trans
    (map_back_congr (fun i hi => by rw [hlengths i (by omega)]))
  sendingNumber := h.sendingNumber.trans
    (congrArg (Option.getD · 0) (map_back_congr (fun i hi => hlengths i (by omega))))
  previousCount := h.previousCount.trans
    (congrArg (Option.getD · 0) (map_back_congr (fun i hi => hlengths i (by omega))))

omit [LinearOrder K] in
theorem chainHeader_congr (hagree : ∀ i < n, secrets i = secrets' i) (hn : c + 2 < n) :
    (chainHeader secrets lengths c p : Header K) = chainHeader secrets' lengths c p := by
  rw [chainHeader, chainHeader, pubkey_congr hagree hn]

omit [LinearOrder K] in
theorem HonestEvent.congr (h : HonestEvent secrets shared lengths c p text event)
    (hagree : ∀ i < n, secrets i = secrets' i) (hn : c + 2 < n) :
    HonestEvent secrets' shared lengths c p text event where
  version := h.version
  sender := h.sender.trans (pubkey_congr hagree (by omega))
  header := by
    obtain ⟨nonce, encryptedHeader, hsome, hheader⟩ := h.header
    refine ⟨nonce, encryptedHeader, hsome, ?_⟩
    rw [← chainHeader_congr hagree hn, ← hagree c (by omega), ← hagree (c + 1) (by omega)]
    exact hheader
  body := by
    rw [← messageKey_congr hagree shared hn]
    exact h.body

omit [LinearOrder K] in
theorem chainHeader_of_lengths (hlengths : ∀ d, d + 2 = c → lengths d = lengths' d) :
    (chainHeader secrets lengths c p : Header K) = chainHeader secrets lengths' c p := by
  rw [chainHeader, chainHeader, map_back_congr (fun i hi => hlengths i hi)]

omit [LinearOrder K] in
theorem HonestEvent.of_lengths (h : HonestEvent secrets shared lengths c p text event)
    (hlengths : ∀ d, d + 2 = c → lengths d = lengths' d) :
    HonestEvent secrets shared lengths' c p text event where
  __ := h
  header := by
    rw [← chainHeader_of_lengths hlengths]
    exact h.header

omit [LinearOrder K] in
theorem nip44Decrypt_iff (hlaws : SymbolicLaws K) {plaintext ciphertext : T} {key nonce : K}
    (h : nip44Encrypt plaintext key nonce = .ok ciphertext) (key' : K) (text : T) :
    nip44Decrypt ciphertext key' = .ok text ↔ key' = key ∧ text = plaintext := by
  unfold nip44Encrypt at h
  rw [except_bind_eq_ok] at h
  obtain ⟨bytes, hbytes, hciphertext⟩ := h
  cases hciphertext
  unfold nip44Decrypt
  rw [hlaws.base64_roundTrip]
  exact hlaws.decrypt_iff hbytes key' text

omit [LinearOrder K] in
theorem getPublicKey_valid {secret : K} (h : ValidSecret secret) :
    getPublicKey secret = .ok ⟨Primitives.publicKey secret⟩ := by
  unfold getPublicKey
  rw [h]
  rfl

omit [LinearOrder K] in
theorem getConversationKey_pubkey (hlaws : SymbolicLaws K) (hdist : Distinct secrets n) {i j : Nat}
    (hi : i < n) (hj : j < n) :
    getConversationKey (secrets i) (pubkey secrets j) = .ok (agreed (secrets i) (secrets j)) :=
  conversationKey_agreed hlaws (hdist.valid i hi) (hdist.valid j hj)

omit [LinearOrder K] in
theorem agreed_eq_iff (hlaws : SymbolicLaws K) (hdist : Distinct secrets n) {i j k l : Nat}
    (hi : i < n) (hj : j < n) (hk : k < n) (hl : l < n) :
    agreed (secrets i) (secrets j) = agreed (secrets k) (secrets l) ↔
      (i = k ∧ j = l) ∨ (i = l ∧ j = k) := by
  have hkey := conversationKey_agreed hlaws (hdist.valid i hi) (hdist.valid j hj)
  have hiff := conversationKey_eq_iff hlaws hdist hi hj hk hl
  rw [hkey, Except.ok.injEq] at hiff
  exact hiff

omit [LinearOrder K] in
/-- A header is read as it was written. -/
theorem openHeader_eq_some (hlaws : SymbolicLaws K) {header : Header K} {key nonce key' : K}
    {encryptedHeader : T}
    (h : nip44Encrypt (Primitives.headerToJson header) key nonce = .ok encryptedHeader)
    {opened : Header K} :
    openHeader encryptedHeader key' = some opened ↔ key' = key ∧ opened = header := by
  unfold openHeader
  cases hdecrypted : nip44Decrypt encryptedHeader key' with
  | error message =>
      have hne : key' ≠ key := by
        rintro rfl
        rw [(nip44Decrypt_iff hlaws h key' _).mpr ⟨rfl, rfl⟩] at hdecrypted
        cases hdecrypted
      constructor
      · intro heq
        cases heq
      · rintro ⟨heq, -⟩
        exact absurd heq hne
  | ok text =>
      obtain ⟨rfl, rfl⟩ := (nip44Decrypt_iff hlaws h key' text).mp hdecrypted
      change (Primitives.headerFromJson (Primitives.headerToJson header)).toOption = _ ↔ _
      rw [hlaws.header_roundTrip]
      constructor
      · intro heq
        exact ⟨rfl, (Option.some.inj heq).symm⟩
      · rintro ⟨-, rfl⟩
        rfl

end

theorem except_map_eq_ok {ε α β : Type} {x : Except ε α} {f : α → β} {b : β} :
    x.map f = .ok b ↔ ∃ a, x = .ok a ∧ f a = b := by
  cases x with
  | error e =>
      constructor
      · intro h
        cases h
      · rintro ⟨a, h, -⟩
        cases h
  | ok a =>
      constructor
      · intro h
        exact ⟨a, rfl, Except.ok.inj h⟩
      · rintro ⟨a', h, rfl⟩
        cases h
        rfl

/-! Sending. -/

section

variable {K T : Type} [LinearOrder K] [Primitives K T] {secrets : Nat → K} {shared : K}
  {lengths : Nat → Nat} {q received n : Nat} {state : SessionState K}

theorem AtPhase.nextHeader (hat : AtPhase secrets shared lengths q received state) {c : Nat}
    (hc : c + 1 = q) : state.nextHeader = chainHeader secrets lengths c (lengths c) := by
  unfold SessionState.nextHeader
  rw [hat.sendingNumber, hat.ourNext, hat.previousCount, back_eq_some.mpr hc, ← hc,
    back_add c 2 1]
  rfl

/-- `ratchetEncrypt` seals the next message of the sending chain. -/
theorem ratchetEncrypt_honest (hat : AtPhase secrets shared lengths q received state) {c : Nat}
    (hc : c + 1 = q) (plaintext : T) (nonce : K) :
    ∃ next, ratchetEncrypt state plaintext nonce =
        ((nip44Encrypt plaintext (messageKey secrets shared c (lengths c)) nonce).map
          (fun ciphertext => (chainHeader secrets lengths c (lengths c), ciphertext)), next) ∧
      AtPhase secrets shared (Function.update lengths c (lengths c + 1)) q received next ∧
      next.skippedKeys = state.skippedKeys := by
  have hback : back q 1 = some c := back_eq_some.mpr hc
  refine ⟨{ state with
    sendingChainKey := some (chainStep (chainKey secrets shared c (lengths c))).1
    sendingChainMessageNumber := state.sendingChainMessageNumber + 1 }, ?_, ?_, rfl⟩
  · unfold ratchetEncrypt
    rw [hat.sendingChain, hback]
    simp only [Option.map_some, hat.nextHeader hc]
    rfl
  · have hother : ∀ {d i : Nat}, i + d = q → d ≠ 1 →
        Function.update lengths c (lengths c + 1) i = lengths i := by
      intro d i hi hd
      exact Function.update_of_ne (by omega) _ _
    exact {
      __ := hat
      sendingChain := by
        rw [hback, Option.map_some, Function.update_self]
        exact congrArg some (KeyChain.chainKey_succ _ _ _).symm
      sendingNumber := by
        change state.sendingChainMessageNumber + 1 = _
        rw [hat.sendingNumber, hback, Option.map_some, Option.map_some, Function.update_self]
        rfl
      previousCount := hat.previousCount.trans
        (congrArg (Option.getD · 0) (map_back_congr (fun i hi => (hother hi (by omega)).symm))) }

/-- An inner event as `sendEvent` builds it. -/
def Built (codec : RumorCodec T) (innerEvent : JsonValue) : Prop :=
  ∃ event kind now id, codec.getEventHash (.object (innerFields event kind now)) = .ok id ∧
    innerEvent = .object (innerFields event kind now ++ [("id", .string id)])

omit [LinearOrder K] [Primitives K T] in
theorem hasMetadataPrivacyVersion_of_recipients {message : MessageEvent K T}
    {outerTags : List (List String)} (htags : message.tags = ["v", "2"] :: outerTags)
    (hrecipients : outerTags.any (fun tag => !isRecipientTag tag) = false) :
    message.hasMetadataPrivacyVersion = true := by
  have hnone : outerTags.filter (fun tag => tag.head? = some "v") = [] := by
    rw [List.filter_eq_nil_iff]
    intro tag htag hversion
    have hrecipient := List.any_eq_false.mp hrecipients tag htag
    unfold isRecipientTag at hrecipient
    split at hrecipient
    · simp at hversion
    · simp at hrecipient
  unfold MessageEvent.hasMetadataPrivacyVersion
  rw [htags, List.filter_cons_of_pos (by rfl), hnone]
  rfl

/-- A call of `sendEvent` that does not throw at once takes the next position of the sending
chain, whether or not it then returns a message. -/
theorem sendEvent_honest (hlaws : SymbolicLaws K) (hdist : Distinct secrets n)
    (hat : AtPhase secrets shared lengths q received state) (hn : q + 1 < n)
    (codec : RumorCodec T) (event : PartialEvent) (outerTags : List (List String)) (now : Nat)
    (bodyNonce headerNonce : K) {result : Except String (MessageEvent K T × JsonValue)}
    {next : SessionState K}
    (h : sendEvent codec state event outerTags now bodyNonce headerNonce = (result, next)) :
    (next = state ∧ ∀ sent, result ≠ .ok sent) ∨
    ∃ c, c + 1 = q ∧ next.skippedKeys = state.skippedKeys ∧
      AtPhase secrets shared (Function.update lengths c (lengths c + 1)) q received next ∧
      ∀ sent, result = .ok sent → Built codec sent.2 ∧
        HonestEvent secrets shared lengths c (lengths c) (codec.jsonStringify sent.2) sent.1 := by
  have hrefused : ∀ message, (Except.error message, state) = (result, next) →
      next = state ∧ ∀ sent, result ≠ .ok sent := by
    rintro message heq
    cases heq
    exact ⟨rfl, fun sent heq => by cases heq⟩
  unfold sendEvent at h
  rw [if_neg (not_not_intro hat.version)] at h
  split at h
  · exact .inl (hrefused _ h)
  · rename_i hrecipients
    obtain ⟨hrecipients, -⟩ := Bool.or_eq_false_iff.mp (Bool.eq_false_iff.mpr hrecipients)
    cases hback : back q 1 with
    | none =>
        rw [hat.ourCurrent, hback] at h
        exact .inl (hrefused _ h)
    | some c =>
        rw [hat.ourCurrent, hback] at h
        simp only [Option.map_some] at h
        split at h
        · exact .inl (hrefused _ h)
        · split at h
          · exact .inl (hrefused _ h)
          · split at h
            · exact .inl (hrefused _ h)
            · rename_i kind _ _ id hhash
              have hc := back_eq_some.mp hback
              obtain ⟨after, hencrypted, hafter, hskipped⟩ := ratchetEncrypt_honest hat hc
                (codec.jsonStringify (.object (innerFields event kind now ++ [("id", .string id)])))
                bodyNonce
              rw [hencrypted] at h
              obtain ⟨hresult, rfl⟩ := Prod.mk.inj h
              refine .inr ⟨c, hc, hskipped, hafter, ?_⟩
              rintro ⟨message, rumor⟩ rfl
              rw [except_bind_eq_ok] at hresult
              obtain ⟨⟨header, encryptedData⟩, hdata, hresult⟩ := hresult
              rw [except_bind_eq_ok] at hresult
              obtain ⟨message', hmessage, hresult⟩ := hresult
              cases hresult
              obtain ⟨ciphertext, hciphertext, heq⟩ := except_map_eq_ok.mp hdata
              cases heq
              unfold messageEvent at hmessage
              rw [hafter.theirNext, keyPair, ← hc,
                getConversationKey_pubkey hlaws hdist (by omega) (by omega)] at hmessage
              change (nip44Encrypt (K := K) _ _ _ >>= _) = _ at hmessage
              rw [except_bind_eq_ok] at hmessage
              obtain ⟨encryptedHeader, hheader, hmessage⟩ := hmessage
              rw [getPublicKey_valid (hdist.valid c (by omega))] at hmessage
              cases hmessage
              exact ⟨⟨event, kind, now, id, hhash, rfl⟩, {
                version := hasMetadataPrivacyVersion_of_recipients rfl hrecipients
                sender := rfl
                header := ⟨_, _, rfl, hheader⟩
                body := ⟨_, hciphertext⟩ }⟩

end

/-! Receiving. -/

section

variable {K T : Type} [LinearOrder K] [Primitives K T] {state next : SessionState K}
  {sender nostrSender : DevicePubkey K} {number : Nat}

theorem skippedKey_of_skippedKeys (h : next.skippedKeys = state.skippedKeys)
    (sender : DevicePubkey K) (number : Nat) :
    next.skippedKey sender number = state.skippedKey sender number := by
  unfold SessionState.skippedKey
  rw [h]

/-- The keys one sender's entry keeps, and those of the others. -/
theorem skippedKey_insert {skippedKeys : SkippedKeys K}
    (h : next.skippedKeys = state.skippedKeys.insert nostrSender skippedKeys)
    (sender : DevicePubkey K) (number : Nat) :
    next.skippedKey sender number =
      if sender = nostrSender then skippedKeys.messageKeys.get? number
      else state.skippedKey sender number := by
  unfold SessionState.skippedKey
  rw [h, SortedMap.get?_insert]
  by_cases hsender : nostrSender = sender
  · rw [if_pos hsender, if_pos hsender.symm]
    rfl
  · rw [if_neg hsender, if_neg (fun heq => hsender heq.symm)]

/-- What skipping up to a number does. -/
theorem skipMessageKeys_eq_ok {until_ : Nat}
    (h : skipMessageKeys state until_ nostrSender = .ok next) :
    (until_ ≤ state.receivingChainMessageNumber ∧ next = state) ∨
    ∃ receivingChainKey skipped, state.receivingChainMessageNumber < until_ ∧
      state.receivingChainKey = some receivingChainKey ∧
      next = { state with
        receivingChainKey := some (KeyChain.chainKey chainStep receivingChainKey
          (until_ - state.receivingChainMessageNumber))
        receivingChainMessageNumber := until_
        skippedKeys := state.skippedKeys.insert nostrSender skipped } ∧
      (∀ number, skipped.messageKeys.get? number =
        if state.receivingChainMessageNumber ≤ number ∧ number < until_ then
          some (KeyChain.messageKey chainStep receivingChainKey
            (number - state.receivingChainMessageNumber))
        else state.skippedKey nostrSender number) ∧
      ((∃ entry, state.skippedKeys.get? nostrSender = some entry ∧
          skipped.headerKeys = entry.headerKeys) ∨
        headerSecrets state nostrSender = .ok skipped.headerKeys) := by
  unfold skipMessageKeys at h
  split at h
  · rename_i hle
    cases h
    exact .inl ⟨hle, rfl⟩
  · rename_i hlt
    split at h
    · cases h
    · rw [except_bind_eq_ok] at h
      obtain ⟨skipped, hskipped, h⟩ := h
      cases hchain : state.receivingChainKey with
      | none =>
          rw [hchain] at h
          cases h
      | some receivingChainKey =>
          rw [hchain] at h
          dsimp only at h
          rw [KeyChain.skipKeys_chainKey, KeyChain.skipKeys_number, Nat.add_sub_cancel' (by omega)]
            at h
          obtain rfl := Except.ok.inj h
          have hpassed := KeyChain.get?_skipKeys (chainStep : K → K × K)
            (until_ - state.receivingChainMessageNumber) state.receivingChainMessageNumber
          rw [Nat.add_sub_cancel' (by omega)] at hpassed
          unfold skippedEntry at hskipped
          refine .inr ⟨receivingChainKey, _, by omega, rfl, rfl, ?_, ?_⟩
          · intro number
            dsimp only
            rw [hpassed]
            congr 1
            unfold SessionState.skippedKey
            cases hentry : state.skippedKeys.get? nostrSender with
            | some entry =>
                rw [hentry] at hskipped
                cases hskipped
                rfl
            | none =>
                rw [hentry] at hskipped
                dsimp only at hskipped
                rw [except_bind_eq_ok] at hskipped
                obtain ⟨headerKeys, -, hskipped⟩ := hskipped
                cases hskipped
                rfl
          · cases hentry : state.skippedKeys.get? nostrSender with
            | some entry =>
                rw [hentry] at hskipped
                cases hskipped
                exact .inl ⟨_, rfl, rfl⟩
            | none =>
                rw [hentry] at hskipped
                dsimp only at hskipped
                rw [except_bind_eq_ok] at hskipped
                obtain ⟨headerKeys, hheaderKeys, hskipped⟩ := hskipped
                cases hskipped
                exact .inr hheaderKeys

/-- The skip succeeds unless it is too long. -/
theorem skipMessageKeys_ok {until_ : Nat} {receivingChainKey : K} {headerKeys : List K}
    (hchain : state.receivingChainKey = some receivingChainKey)
    (hheaderKeys : headerSecrets state nostrSender = .ok headerKeys)
    (hskip : until_ ≤ state.receivingChainMessageNumber + MAX_SKIP) :
    ∃ next, skipMessageKeys state until_ nostrSender = .ok next := by
  unfold skipMessageKeys skippedEntry
  split
  · exact ⟨_, rfl⟩
  · rw [if_neg (by omega), hheaderKeys, hchain]
    cases state.skippedKeys.get? nostrSender with
    | some entry => exact ⟨_, rfl⟩
    | none => exact ⟨_, rfl⟩

/-- The keys kept after a skip. -/
theorem skippedKey_skipMessageKeys {until_ : Nat} {receivingChainKey : K}
    (hchain : state.receivingChainKey = some receivingChainKey)
    (h : skipMessageKeys state until_ nostrSender = .ok next) (sender : DevicePubkey K)
    (number : Nat) : next.skippedKey sender number =
      if sender = nostrSender ∧ state.receivingChainMessageNumber ≤ number ∧ number < until_ then
        some (KeyChain.messageKey chainStep receivingChainKey
          (number - state.receivingChainMessageNumber))
      else state.skippedKey sender number := by
  obtain ⟨hle, rfl⟩ | ⟨chain, skipped, hlt, hsome, rfl, hkeys, -⟩ := skipMessageKeys_eq_ok h
  · rw [if_neg (by omega)]
  · rw [hchain] at hsome
    cases hsome
    rw [skippedKey_insert rfl]
    by_cases hsender : sender = nostrSender
    · rw [if_pos hsender, hkeys, hsender]
      by_cases hpassed : state.receivingChainMessageNumber ≤ number ∧ number < until_
      · rw [if_pos hpassed, if_pos ⟨rfl, hpassed⟩]
      · rw [if_neg hpassed, if_neg (fun hall => hpassed hall.2)]
    · rw [if_neg hsender, if_neg (fun hall => hsender hall.1)]

/-- A key that is kept is tried first, and is gone once it was tried. -/
theorem trySkippedMessageKeys_eq_some {header : Header K} {ciphertext plaintext : T}
    (h : trySkippedMessageKeys state header ciphertext nostrSender = .ok (some (plaintext, next))) :
    (∃ messageKey, state.skippedKey nostrSender header.number = some messageKey ∧
        nip44Decrypt ciphertext messageKey = .ok plaintext) ∧
      (∃ skippedKeys, next = { state with skippedKeys := skippedKeys }) ∧
      (∀ sender number, next.skippedKey sender number =
        if sender = nostrSender ∧ number = header.number then none
        else state.skippedKey sender number) ∧
      ∀ sender entry, next.skippedKeys.get? sender = some entry →
        ∃ old, state.skippedKeys.get? sender = some old ∧ old.headerKeys = entry.headerKeys := by
  unfold trySkippedMessageKeys at h
  cases hentry : state.skippedKeys.get? nostrSender with
  | none =>
      rw [hentry] at h
      cases h
  | some entry =>
      rw [hentry] at h
      dsimp only at h
      cases hkey : entry.messageKeys.get? header.number with
      | none =>
          rw [hkey] at h
          cases h
      | some messageKey =>
          rw [hkey] at h
          dsimp only at h
          rw [except_bind_eq_ok] at h
          obtain ⟨text, htext, h⟩ := h
          cases h
          have hheld : state.skippedKey nostrSender header.number = some messageKey := by
            unfold SessionState.skippedKey
            rw [hentry]
            exact hkey
          refine ⟨⟨messageKey, hheld, htext⟩, ⟨_, rfl⟩, ?_, ?_⟩
          · intro sender number
            have hold : state.skippedKey nostrSender number = entry.messageKeys.get? number := by
              unfold SessionState.skippedKey
              rw [hentry]
              rfl
            by_cases hlength : (entry.messageKeys.erase header.number).length = 0
            · have hnone : ∀ number, (entry.messageKeys.erase header.number).get? number = none := by
                intro number
                cases hget : (entry.messageKeys.erase header.number).get? number with
                | none => rfl
                | some key =>
                    have hmem := SortedMap.mem_entries.mpr hget
                    rw [SortedMap.length, List.length_eq_zero_iff] at hlength
                    rw [hlength] at hmem
                    cases hmem
              have hgone := hnone number
              rw [SortedMap.get?_erase] at hgone
              unfold SessionState.skippedKey
              dsimp only
              rw [if_pos hlength, SortedMap.get?_erase]
              by_cases hsender : sender = nostrSender
              · subst hsender
                rw [if_pos rfl]
                by_cases hnumber : number = header.number
                · rw [if_pos ⟨rfl, hnumber⟩]
                  rfl
                · rw [if_neg (fun heq => hnumber heq.symm)] at hgone
                  rw [if_neg (fun hall => hnumber hall.2), hentry]
                  exact hgone.symm
              · rw [if_neg (fun heq => hsender heq.symm), if_neg (fun hall => hsender hall.1)]
            · rw [if_neg hlength, skippedKey_insert rfl]
              dsimp only
              rw [SortedMap.get?_erase]
              by_cases hsender : sender = nostrSender
              · rw [if_pos hsender, hsender, hold]
                by_cases hnumber : number = header.number
                · rw [if_pos hnumber.symm, if_pos ⟨rfl, hnumber⟩]
                · rw [if_neg (fun heq => hnumber heq.symm), if_neg (fun hall => hnumber hall.2)]
              · rw [if_neg hsender, if_neg (fun hall => hsender hall.1)]
          · intro sender other hother
            dsimp only at hother
            split at hother
            · rw [SortedMap.get?_erase] at hother
              split at hother
              · cases hother
              · exact ⟨other, hother, rfl⟩
            · rw [SortedMap.get?_insert] at hother
              split at hother
              · rename_i hsender
                cases hother
                exact ⟨entry, hsender ▸ hentry, rfl⟩
              · exact ⟨other, hother, rfl⟩

theorem trySkippedMessageKeys_eq_none {header : Header K} {ciphertext : T}
    (h : trySkippedMessageKeys state header ciphertext nostrSender = .ok none) :
    state.skippedKey nostrSender header.number = none := by
  unfold trySkippedMessageKeys at h
  unfold SessionState.skippedKey
  cases hentry : state.skippedKeys.get? nostrSender with
  | none => rfl
  | some entry =>
      rw [hentry] at h
      dsimp only at h
      cases hkey : entry.messageKeys.get? header.number with
      | none => exact hkey
      | some messageKey =>
          rw [hkey] at h
          dsimp only at h
          rw [except_bind_eq_ok] at h
          obtain ⟨text, -, h⟩ := h
          cases h

theorem trySkippedMessageKeys_none {header : Header K}
    (h : state.skippedKey nostrSender header.number = none) (ciphertext : T) :
    trySkippedMessageKeys state header ciphertext nostrSender = .ok none := by
  unfold SessionState.skippedKey at h
  unfold trySkippedMessageKeys
  cases hentry : state.skippedKeys.get? nostrSender with
  | none => rfl
  | some entry =>
      rw [hentry] at h
      dsimp only
      rw [show entry.messageKeys.get? header.number = none from h]

theorem trySkippedMessageKeys_some {header : Header K} {messageKey : K} {ciphertext plaintext : T}
    (h : state.skippedKey nostrSender header.number = some messageKey)
    (hplaintext : nip44Decrypt ciphertext messageKey = .ok plaintext) :
    ∃ next, trySkippedMessageKeys state header ciphertext nostrSender =
      .ok (some (plaintext, next)) := by
  obtain ⟨entry, hentry, hkey⟩ := Option.bind_eq_some_iff.mp h
  unfold trySkippedMessageKeys
  rw [hentry]
  dsimp only
  rw [hkey]
  dsimp only
  rw [hplaintext]
  exact ⟨_, rfl⟩

end

section

variable {K T : Type} [LinearOrder K] [Primitives K T] {secrets : Nat → K} {shared : K}
  {lengths : Nat → Nat} {q received c p n : Nat} {state next ready : SessionState K} {text : T}
  {event : MessageEvent K T}

/-- Every entry is one of a chain received from, and its header keys open that chain's headers. -/
def Entries (secrets : Nat → K) (q : Nat) (state : SessionState K) : Prop :=
  ∀ sender entry, state.skippedKeys.get? sender = some entry →
    ∃ c, c + 2 ≤ q ∧ sender = pubkey secrets c ∧
      agreed (secrets c) (secrets (c + 1)) ∈ entry.headerKeys

theorem Entries.of_skippedKeys (h : Entries secrets q state)
    (hsame : next.skippedKeys = state.skippedKeys) : Entries secrets q next := by
  intro sender entry hentry
  rw [hsame] at hentry
  exact h sender entry hentry

theorem Entries.congr {secrets' : Nat → K} (h : Entries secrets q state)
    (hagree : ∀ i < n, secrets i = secrets' i) (hn : q ≤ n) : Entries secrets' q state := by
  intro sender entry hentry
  obtain ⟨c, hc, hsender, hkey⟩ := h sender entry hentry
  rw [hagree c (by omega), hagree (c + 1) (by omega)] at hkey
  exact ⟨c, hc, hsender.trans (pubkey_congr hagree (by omega)), hkey⟩

theorem headerSecrets_honest (hlaws : SymbolicLaws K) (hdist : Distinct secrets n)
    (hcurrent : state.ourCurrentNostrKey = (back q 1).map (keyPair secrets))
    (hnext : state.ourNextNostrKey = keyPair secrets (q + 1)) (hn : q + 1 < n) (hc : c < n) :
    headerSecrets state (pubkey secrets c) =
      .ok ((back q 1).toList.map (fun i => agreed (secrets i) (secrets c)) ++
        [agreed (secrets (q + 1)) (secrets c)]) := by
  have hkey : ∀ {i : Nat}, i < n → getConversationKey (keyPair secrets i).privateKey
      (pubkey secrets c) = .ok (agreed (secrets i) (secrets c)) :=
    fun hi => getConversationKey_pubkey hlaws hdist hi hc
  unfold headerSecrets
  rw [hcurrent, hnext, hkey hn]
  cases hback : back q 1 with
  | none => rfl
  | some i =>
      have hi := back_eq_some.mp hback
      rw [Option.map_some, Option.toList_some, List.mapM_cons, List.mapM_nil, hkey (by omega)]
      rfl

/-- Skipping on the receiving chain makes an entry that opens its headers. -/
theorem Entries.skipMessageKeys (hlaws : SymbolicLaws K) (hdist : Distinct secrets n)
    (h : Entries secrets q state)
    (hcurrent : state.ourCurrentNostrKey = (back q 1).map (keyPair secrets))
    (hnext : state.ourNextNostrKey = keyPair secrets (q + 1)) (hn : q + 1 < n) (hc : c + 2 = q)
    {until_ : Nat} (hskip : skipMessageKeys state until_ (pubkey secrets c) = .ok next) :
    Entries secrets q next := by
  obtain ⟨-, rfl⟩ | ⟨-, skipped, -, -, rfl, -, hkeys⟩ := skipMessageKeys_eq_ok hskip
  · exact h
  · intro sender entry hentry
    change (state.skippedKeys.insert _ _).get? sender = _ at hentry
    rw [SortedMap.get?_insert] at hentry
    split at hentry
    · rename_i hsender
      cases hentry
      obtain ⟨old, hold, hsame⟩ | hnew := hkeys
      · rw [hsender] at hold
        rw [hsame]
        exact h sender old hold
      · rw [headerSecrets_honest hlaws hdist hcurrent hnext hn (by omega)] at hnew
        refine ⟨c, hc.le, hsender.symm, ?_⟩
        rw [← Except.ok.inj hnew, back_eq_some.mpr (by omega : c + 1 + 1 = q),
          agreed_comm hlaws (hdist.valid c (by omega)) (hdist.valid (c + 1) (by omega))]
        exact List.mem_append_left _ List.mem_cons_self
    · exact h sender entry hentry

/-- What accepting message `p` of chain `c` does to a state: it gives up the key of that message
and keeps those of the messages it passes. -/
structure Reception (secrets : Nat → K) (shared : K) (lengths : Nat → Nat) (q received c p : Nat)
    (state next : SessionState K) (received' : Nat) : Prop where
  atPhase : AtPhase secrets shared lengths q received' next
  entries : Entries secrets q state → Entries secrets q next
  skippedKey : ∀ sender number, next.skippedKey sender number =
    if sender = pubkey secrets c ∧ number = p then none
    else if sender = pubkey secrets c ∧ received ≤ number ∧ number < received' then
      some (messageKey secrets shared c number)
    else state.skippedKey sender number
  reached : (received' = received ∧ (state.skippedKey (pubkey secrets c) p).isSome = true) ∨
    (c + 2 = q ∧ received ≤ p ∧ received' = p + 1)

theorem AtPhase.skipMessageKeys {until_ : Nat} {sender : DevicePubkey K}
    (hat : AtPhase secrets shared lengths q received state) (hc : c + 2 = q)
    (h : skipMessageKeys state until_ sender = .ok next) :
    AtPhase secrets shared lengths q (max received until_) next := by
  obtain ⟨hle, rfl⟩ | ⟨chain, skipped, hlt, hchain, rfl, -, -⟩ := skipMessageKeys_eq_ok h
  · rw [hat.receivingNumber] at hle
    rw [max_eq_left hle]
    exact hat
  · rw [hat.receivingNumber] at hlt
    have hback : back q 2 = some c := back_eq_some.mpr hc
    rw [hat.receivingChain, hback] at hchain
    cases hchain
    exact {
      __ := hat
      receivingChain := by
        have hlast := KeyChain.chainKey_chainKey chainStep (chainStart secrets shared c) received
          (until_ - received)
        rw [Nat.add_sub_cancel' hlt.le] at hlast
        rw [hback, Option.map_some, hat.receivingNumber, max_eq_right hlt.le]
        exact congrArg some hlast
      receivingNumber := (max_eq_right hlt.le).symm }

omit [LinearOrder K] in
/-- The keys kept for the messages a skip passes. -/
theorem skippedKey_skipTo (secrets : Nat → K) (shared : K) (received : Nat) {number : Nat}
    (hle : received ≤ number) :
    KeyChain.messageKey chainStep (chainKey secrets shared c received) (number - received) =
      messageKey secrets shared c number := by
  have hkey := KeyChain.messageKey_chainKey chainStep (chainStart secrets shared c) received
    (number - received)
  rw [Nat.add_sub_cancel' hle] at hkey
  exact hkey

/-- A message of the receiving chain, or one whose key was kept, is decrypted with its own key or
not at all. -/
theorem ratchetDecrypt_honest (hlaws : SymbolicLaws K) (hdist : Distinct secrets n)
    (hat : AtPhase secrets shared lengths q received state) (hn : q + 1 < n) (hc : c + 2 ≤ q)
    (hevent : HonestEvent secrets shared lengths c p text event) {header : Header K}
    (hnumber : header.number = p)
    (hheld : c + 2 < q → (state.skippedKey (pubkey secrets c) p).isSome = true) {plaintext : T}
    (h : ratchetDecrypt state header event.content (pubkey secrets c) = .ok (plaintext, next)) :
    plaintext = text ∧
      ∃ received', Reception secrets shared lengths q received c p state next received' := by
  obtain ⟨nonce, hbody⟩ := hevent.body
  unfold ratchetDecrypt at h
  rw [except_bind_eq_ok] at h
  obtain ⟨tried, htried, h⟩ := h
  cases tried with
  | some result =>
      cases h
      obtain ⟨⟨key, hkey, hplaintext⟩, ⟨skippedKeys, rfl⟩, hkeys, hentries⟩ :=
        trySkippedMessageKeys_eq_some htried
      rw [hnumber] at hkeys hkey
      refine ⟨((nip44Decrypt_iff hlaws hbody _ _).mp hplaintext).2, received, { __ := hat }, ?_,
        ?_, .inl ⟨rfl, ?_⟩⟩
      · intro hall sender entry hentry
        obtain ⟨old, hold, hsame⟩ := hentries sender entry hentry
        rw [← hsame]
        exact hall sender old hold
      · intro sender number
        rw [hkeys]
        split
        · rfl
        · rw [if_neg (by omega)]
      · rw [hkey]
        rfl
  | none =>
      have hmissing := trySkippedMessageKeys_eq_none htried
      rw [hnumber] at hmissing
      have hcq : c + 2 = q := by
        by_contra hne
        have hsome := hheld (by omega)
        rw [hmissing] at hsome
        cases hsome
      dsimp only at h
      rw [except_bind_eq_ok] at h
      obtain ⟨mid, hmid, h⟩ := h
      rw [hnumber] at hmid
      have hatMid := hat.skipMessageKeys hcq hmid
      have hback : back q 2 = some c := back_eq_some.mpr hcq
      have hchain : state.receivingChainKey = some (chainKey secrets shared c received) := by
        rw [hat.receivingChain, hback]
        rfl
      rw [hatMid.receivingChain, hback] at h
      dsimp only [Option.map_some] at h
      rw [except_bind_eq_ok] at h
      obtain ⟨opened, hopened, h⟩ := h
      cases h
      obtain ⟨hkey, rfl⟩ := (nip44Decrypt_iff hlaws hbody _ _).mp hopened
      have hposition := (messageKey_inj hlaws hdist (by omega) (by omega) hkey).2
      refine ⟨rfl, p + 1, ?_, ?_, ?_, .inr ⟨hcq, by omega, rfl⟩⟩
      · exact {
          __ := hatMid
          receivingChain := by
            rw [hback, Option.map_some, hposition]
            exact congrArg some (KeyChain.chainKey_succ _ _ _).symm
          receivingNumber := by
            change mid.receivingChainMessageNumber + 1 = _
            rw [hatMid.receivingNumber, hposition] }
      · intro hall
        exact (hall.skipMessageKeys hlaws hdist hat.ourCurrent hat.ourNext hn hcq
          hmid).of_skippedKeys rfl
      · intro sender number
        change mid.skippedKey sender number = _
        rw [skippedKey_skipMessageKeys hchain hmid, hat.receivingNumber]
        by_cases hsame : sender = pubkey secrets c ∧ number = p
        · rw [if_pos hsame, if_neg (by omega), hsame.1, hsame.2]
          exact hmissing
        · rw [if_neg hsame]
          by_cases hpassed : sender = pubkey secrets c ∧ received ≤ number ∧ number < p
          · rw [if_pos hpassed, if_pos ⟨hpassed.1, hpassed.2.1, by omega⟩,
              skippedKey_skipTo secrets shared received hpassed.2.1]
          · rw [if_neg hpassed, if_neg]
            rintro ⟨hsender, hle, hlt⟩
            by_cases hnumberEq : number = p
            · exact hsame ⟨hsender, hnumberEq⟩
            · exact hpassed ⟨hsender, hle, by omega⟩

/-- It is decrypted when its key was kept, and when the chain reaches it. -/
theorem ratchetDecrypt_ok (hlaws : SymbolicLaws K) (hdist : Distinct secrets n)
    (hat : AtPhase secrets shared lengths q received state) (hn : q + 1 < n)
    (hevent : HonestEvent secrets shared lengths c p text event) {header : Header K}
    (hnumber : header.number = p)
    (hready : state.skippedKey (pubkey secrets c) p = some (messageKey secrets shared c p) ∨
      state.skippedKey (pubkey secrets c) p = none ∧ c + 2 = q ∧ received ≤ p ∧
        p ≤ received + MAX_SKIP) :
    ∃ next, ratchetDecrypt state header event.content (pubkey secrets c) = .ok (text, next) := by
  obtain ⟨nonce, hbody⟩ := hevent.body
  have hopen := (nip44Decrypt_iff hlaws hbody _ _).mpr ⟨rfl, rfl⟩
  unfold ratchetDecrypt
  obtain hkey | ⟨hmissing, hcq, hle, hskip⟩ := hready
  · rw [← hnumber] at hkey
    obtain ⟨next, hnext⟩ := trySkippedMessageKeys_some hkey (hnumber ▸ hopen)
    rw [hnext]
    exact ⟨next, rfl⟩
  · rw [← hnumber] at hmissing
    rw [trySkippedMessageKeys_none hmissing]
    have hback : back q 2 = some c := back_eq_some.mpr hcq
    have hchain : state.receivingChainKey = some (chainKey secrets shared c received) := by
      rw [hat.receivingChain, hback]
      rfl
    obtain ⟨mid, hmid⟩ := skipMessageKeys_ok hchain
      (headerSecrets_honest hlaws hdist hat.ourCurrent hat.ourNext hn (by omega : c < n))
      (hat.receivingNumber ▸ hskip)
    have hatMid := hat.skipMessageKeys hcq hmid
    change ∃ next, (skipMessageKeys state header.number _ >>= _) = _
    rw [hnumber, hmid]
    dsimp only [bind, Except.bind]
    rw [hatMid.receivingChain, hback, max_eq_right hle]
    dsimp only [Option.map_some]
    change ∃ next, (nip44Decrypt event.content (messageKey secrets shared c p) >>= _) = _
    rw [hopen]
    exact ⟨_, rfl⟩

end

section

variable {K T : Type} [LinearOrder K] [Primitives K T] {secrets : Nat → K} {shared : K}
  {lengths : Nat → Nat} {q received c p n : Nat} {state next ready : SessionState K} {text : T}
  {event : MessageEvent K T}

omit [LinearOrder K] in
theorem distinct_mono {m : Nat} (hdist : Distinct secrets n) (hle : m ≤ n) : Distinct secrets m :=
  ⟨fun i hi => hdist.valid i (by omega), fun i j hi hj => hdist.inj i j (by omega) (by omega)⟩

omit [LinearOrder K] in
theorem distinct_congr {secrets' : Nat → K} (hdist : Distinct secrets n)
    (hagree : ∀ i < n, secrets i = secrets' i) : Distinct secrets' n := by
  refine ⟨fun i hi => hagree i hi ▸ hdist.valid i hi, ?_⟩
  intro i j hi hj heq
  rw [← pubkey_congr hagree hi, ← pubkey_congr hagree hj] at heq
  exact hdist.inj i j hi hj heq

omit [LinearOrder K] in
theorem distinct_of_draw {secret : K} (hdist : Distinct (draw secrets n secret) (n + 1)) :
    Distinct secrets n :=
  distinct_congr (distinct_mono hdist (Nat.le_succ n))
    (fun _ hi => (draw_of_lt secrets secret hi).symm)

omit [LinearOrder K] in
/-- The key shared by the sender of a chain and another pair opens its headers when that pair is
the next one. -/
theorem openHeader_honest (hlaws : SymbolicLaws K) (hdist : Distinct secrets n)
    {header : Header K} {nonce : K} {encryptedHeader : T}
    (hheader : nip44Encrypt (Primitives.headerToJson header)
      (agreed (secrets c) (secrets (c + 1))) nonce = .ok encryptedHeader) {i : Nat} (hi : i < n)
    (hc : c + 1 < n) :
    openHeader encryptedHeader (agreed (secrets i) (secrets c)) =
      if i = c + 1 then some header else none := by
  have hiff : ∀ read, openHeader encryptedHeader (agreed (secrets i) (secrets c)) = some read ↔
      i = c + 1 ∧ read = header := by
    intro read
    rw [openHeader_eq_some hlaws hheader, agreed_eq_iff hlaws hdist hi (by omega) (by omega) hc]
    constructor
    · rintro ⟨hpair, rfl⟩
      exact ⟨by omega, rfl⟩
    · rintro ⟨rfl, rfl⟩
      exact ⟨.inr ⟨rfl, rfl⟩, rfl⟩
  split
  · rename_i hsame
    exact (hiff header).mpr ⟨hsame, rfl⟩
  · rename_i hother
    cases hopened : openHeader encryptedHeader (agreed (secrets i) (secrets c)) with
    | none => rfl
    | some read => exact absurd ((hiff read).mp hopened).1 hother

/-- The key that opens a header tells the message's chain apart. -/
theorem tryCurrentKey_honest (hlaws : SymbolicLaws K) (hdist : Distinct secrets n)
    (hat : AtPhase secrets shared lengths q received state) (hn : q + 1 < n) (hc : c ≤ q)
    {header : Header K} {nonce : K} {encryptedHeader : T}
    (hheader : nip44Encrypt (Primitives.headerToJson header)
      (agreed (secrets c) (secrets (c + 1))) nonce = .ok encryptedHeader) :
    tryCurrentKey state (pubkey secrets c) encryptedHeader =
      .ok (if c + 2 = q then some header else none) := by
  unfold tryCurrentKey
  cases hback : back q 1 with
  | none =>
      have hzero : ¬ 1 ≤ q := by
        intro hle
        rw [back, if_pos hle] at hback
        cases hback
      rw [hat.ourCurrent, hback, if_neg (by omega)]
      rfl
  | some i =>
      have hi := back_eq_some.mp hback
      rw [hat.ourCurrent, hback]
      dsimp only [Option.map_some, keyPair]
      split
      · rw [getConversationKey_pubkey hlaws hdist (by omega) (by omega)]
        change Except.ok (openHeader encryptedHeader (agreed (secrets i) (secrets c))) = _
        rw [openHeader_honest hlaws hdist hheader (by omega) (by omega)]
        by_cases hcq : c + 2 = q
        · rw [if_pos hcq, if_pos (by omega)]
        · rw [if_neg hcq, if_neg (by omega)]
      · rename_i hother
        rw [if_neg]
        intro hcq
        refine hother (.inr (.inl ?_))
        rw [hat.theirCurrent, back_eq_some.mpr hcq, Option.map_some]

theorem tryNextKey_honest (hlaws : SymbolicLaws K) (hdist : Distinct secrets n)
    (hat : AtPhase secrets shared lengths q received state) (hn : q + 1 < n) (hc : c ≤ q)
    {header : Header K} {nonce : K} {encryptedHeader : T}
    (hheader : nip44Encrypt (Primitives.headerToJson header)
      (agreed (secrets c) (secrets (c + 1))) nonce = .ok encryptedHeader) :
    tryNextKey state (pubkey secrets c) encryptedHeader =
      .ok (if c = q then some header else none) := by
  unfold tryNextKey
  rw [hat.theirNext, hat.ourNext]
  by_cases hcq : c = q
  · subst hcq
    rw [if_pos rfl, if_pos rfl]
    dsimp only [keyPair]
    rw [getConversationKey_pubkey hlaws hdist hn (by omega)]
    change Except.ok (openHeader encryptedHeader (agreed (secrets (c + 1)) (secrets c))) = _
    rw [openHeader_honest hlaws hdist hheader hn hn, if_pos rfl]
  · rw [if_neg hcq, if_neg (fun heq => hcq (hdist.inj c q (by omega) (by omega) heq))]

/-- Which key opens the header of a message. -/
theorem decryptHeader_eq (hlaws : SymbolicLaws K) (hdist : Distinct secrets n)
    (hat : AtPhase secrets shared lengths q received state) (hn : q + 1 < n) (hc : c ≤ q)
    (hevent : HonestEvent secrets shared lengths c p text event) :
    ∃ encryptedHeader, event.header = some encryptedHeader ∧
      decryptHeader state event =
        if c + 2 = q then .ok (chainHeader secrets lengths c p, .current)
        else if c = q then .ok (chainHeader secrets lengths c p, .next)
        else match trySkippedKeys state (pubkey secrets c) encryptedHeader with
          | some header => .ok (header, .skipped)
          | none => .error "Failed to decrypt header with current and skipped header keys" := by
  obtain ⟨nonce, encryptedHeader, hsome, hheader⟩ := hevent.header
  refine ⟨encryptedHeader, hsome, ?_⟩
  unfold decryptHeader
  rw [hsome, hevent.sender]
  dsimp only
  rw [tryCurrentKey_honest hlaws hdist hat hn hc hheader,
    tryNextKey_honest hlaws hdist hat hn hc hheader]
  by_cases hcurrent : c + 2 = q
  · rw [if_pos hcurrent, if_pos hcurrent]
    rfl
  · rw [if_neg hcurrent, if_neg hcurrent]
    by_cases hnext : c = q
    · rw [if_pos hnext, if_pos hnext]
      rfl
    · rw [if_neg hnext, if_neg hnext]
      rfl

theorem decryptHeader_honest (hlaws : SymbolicLaws K) (hdist : Distinct secrets n)
    (hat : AtPhase secrets shared lengths q received state) (hn : q + 1 < n) (hc : c ≤ q)
    (hparity : c % 2 = q % 2) (hevent : HonestEvent secrets shared lengths c p text event)
    {header : Header K} {opened : HeaderKey} (h : decryptHeader state event = .ok (header, opened)) :
    header = chainHeader secrets lengths c p ∧
      ((opened = .current ∧ c + 2 = q) ∨ (opened = .next ∧ c = q) ∨
        (opened = .skipped ∧ c + 2 < q)) := by
  obtain ⟨encryptedHeader, hsome, heq⟩ := decryptHeader_eq hlaws hdist hat hn hc hevent
  rw [heq] at h
  split at h
  · rename_i hcurrent
    cases h
    exact ⟨rfl, .inl ⟨rfl, hcurrent⟩⟩
  · split at h
    · rename_i hnext
      cases h
      exact ⟨rfl, .inr (.inl ⟨rfl, hnext⟩)⟩
    · split at h
      · rename_i read hread
        cases h
        obtain ⟨nonce, encryptedHeader', hsome', hheader⟩ := hevent.header
        rw [hsome] at hsome'
        cases hsome'
        obtain ⟨entry, -, hread⟩ := Option.bind_eq_some_iff.mp hread
        obtain ⟨key, -, hread⟩ := List.exists_of_findSome?_eq_some hread
        exact ⟨((openHeader_eq_some hlaws hheader).mp hread).2, .inr (.inr ⟨rfl, by omega⟩)⟩
      · cases h

/-- The header of a message whose key was kept is opened by its entry. -/
theorem decryptHeader_skipped (hlaws : SymbolicLaws K) (hdist : Distinct secrets n)
    (hat : AtPhase secrets shared lengths q received state) (hentries : Entries secrets q state)
    (hn : q + 1 < n) (hc : c + 2 < q) (hevent : HonestEvent secrets shared lengths c p text event)
    (hheld : (state.skippedKey (pubkey secrets c) p).isSome = true) :
    decryptHeader state event = .ok (chainHeader secrets lengths c p, .skipped) := by
  obtain ⟨encryptedHeader, hsome, heq⟩ := decryptHeader_eq hlaws hdist hat hn (by omega) hevent
  obtain ⟨nonce, encryptedHeader', hsome', hheader⟩ := hevent.header
  rw [hsome] at hsome'
  cases hsome'
  obtain ⟨key, hkey⟩ := Option.isSome_iff_exists.mp hheld
  obtain ⟨entry, hentry, -⟩ := Option.bind_eq_some_iff.mp hkey
  obtain ⟨d, hd, hsame, hmem⟩ := hentries _ entry hentry
  obtain rfl := hdist.inj c d (by omega) (by omega) hsame
  have hopen : openHeader encryptedHeader (agreed (secrets c) (secrets (c + 1))) =
      some (chainHeader secrets lengths c p) :=
    (openHeader_eq_some hlaws hheader).mpr ⟨rfl, rfl⟩
  have hfound : (entry.headerKeys.findSome? (openHeader encryptedHeader)).isSome = true := by
    rw [List.findSome?_isSome_iff]
    exact ⟨_, hmem, by rw [hopen]; rfl⟩
  obtain ⟨read, hread⟩ := Option.isSome_iff_exists.mp hfound
  obtain ⟨opening, -, hopening⟩ := List.exists_of_findSome?_eq_some hread
  obtain ⟨-, rfl⟩ := (openHeader_eq_some hlaws hheader).mp hopening
  have htried : trySkippedKeys state (pubkey secrets c) encryptedHeader =
      some (chainHeader secrets lengths c p) := by
    unfold trySkippedKeys
    rw [hentry]
    exact hread
  rw [heq, if_neg (by omega), if_neg (by omega), htried]

/-- What the party learns from the header of the peer's next chain. -/
theorem learnKeys_next (hdist : Distinct secrets n)
    (hat : AtPhase secrets shared lengths q received state) (hn : q + 2 < n) :
    learnKeys state (chainHeader secrets lengths q p) = { state with
      theirCurrentNostrPublicKey := some (pubkey secrets q)
      theirNextNostrPublicKey := pubkey secrets (q + 2) } := by
  unfold learnKeys
  rw [hat.theirNext, if_pos]
  · rfl
  · intro heq
    have hsame := hdist.inj q (q + 2) (by omega) (by omega) heq
    omega

theorem learnKeys_current (hat : AtPhase secrets shared lengths q received state)
    (hc : c + 2 = q) : learnKeys state (chainHeader secrets lengths c p) = state := by
  unfold learnKeys
  rw [hat.theirNext, chainHeader, hc, if_neg (not_not_intro rfl)]

/-- What a skip leaves as it was. -/
theorem skipMessageKeys_frame {until_ : Nat} {sender : DevicePubkey K}
    (h : skipMessageKeys state until_ sender = .ok next) :
    ∃ receivingChainKey receivingChainMessageNumber skippedKeys, next = { state with
      receivingChainKey := receivingChainKey
      receivingChainMessageNumber := receivingChainMessageNumber
      skippedKeys := skippedKeys } := by
  obtain ⟨-, rfl⟩ | ⟨_, _, -, -, rfl, -, -⟩ := skipMessageKeys_eq_ok h
  · exact ⟨_, _, _, rfl⟩
  · exact ⟨_, _, _, rfl⟩

/-- What leaving the receiving chain does to a state: it keeps the keys of the messages that are
missing. -/
structure Departure (secrets : Nat → K) (shared : K) (lengths : Nat → Nat) (q received : Nat)
    (state ready : SessionState K) : Prop where
  entries : Entries secrets q state → Entries secrets q ready
  skippedKey : ∀ sender number,
    (∃ d, d + 2 = q ∧ sender = pubkey secrets d ∧ received ≤ number ∧ number < lengths d ∧
      ready.skippedKey sender number = some (messageKey secrets shared d number)) ∨
    ((∀ d, d + 2 = q → sender = pubkey secrets d → received ≤ number → lengths d ≤ number) ∧
      ready.skippedKey sender number = state.skippedKey sender number)

theorem leaveChain_honest (hlaws : SymbolicLaws K) (hdist : Distinct secrets n) (hn : q + 1 < n)
    (hcurrent : state.ourCurrentNostrKey = (back q 1).map (keyPair secrets))
    (hnext : state.ourNextNostrKey = keyPair secrets (q + 1))
    (hchain : state.receivingChainKey =
      (back q 2).map (fun c => chainKey secrets shared c received))
    (hnumber : state.receivingChainMessageNumber = received) {previousSender : DevicePubkey K}
    (hsender : ∀ d, d + 2 = q → previousSender = pubkey secrets d)
    (h : skipMessageKeys state (((back q 2).map lengths).getD 0) previousSender = .ok next) :
    Departure secrets shared lengths q received state next := by
  cases hback : back q 2 with
  | none =>
      rw [hback] at h
      obtain ⟨-, rfl⟩ | ⟨_, _, hlt, -⟩ := skipMessageKeys_eq_ok h
      · refine ⟨fun hall => hall, ?_⟩
        intro sender number
        refine .inr ⟨?_, rfl⟩
        intro d hd
        rw [back_eq_some.mpr hd] at hback
        cases hback
      · exact absurd hlt (Nat.not_lt_zero _)
  | some d =>
      have hd := back_eq_some.mp hback
      rw [hback] at h hchain
      obtain rfl := hsender d hd
      refine ⟨fun hall => hall.skipMessageKeys hlaws hdist hcurrent hnext hn hd h, ?_⟩
      intro sender number
      have hkey := skippedKey_skipMessageKeys hchain h sender number
      change next.skippedKey sender number = if sender = pubkey secrets d ∧
        state.receivingChainMessageNumber ≤ number ∧ number < lengths d then _ else _ at hkey
      rw [hnumber] at hkey
      by_cases hpassed : sender = pubkey secrets d ∧ received ≤ number ∧ number < lengths d
      · rw [if_pos hpassed, skippedKey_skipTo secrets shared received hpassed.2.1] at hkey
        exact .inl ⟨d, hd, hpassed.1, hpassed.2.1, hpassed.2.2, hkey⟩
      · rw [if_neg hpassed] at hkey
        refine .inr ⟨?_, hkey⟩
        intro e he hsame hle
        obtain rfl : e = d := by omega
        exact not_lt.mp (fun hlt => hpassed ⟨hsame, hle, hlt⟩)

theorem leaveChain_ok (hlaws : SymbolicLaws K) (hdist : Distinct secrets n) (hn : q + 1 < n)
    (hcurrent : state.ourCurrentNostrKey = (back q 1).map (keyPair secrets))
    (hnext : state.ourNextNostrKey = keyPair secrets (q + 1))
    (hchain : state.receivingChainKey =
      (back q 2).map (fun c => chainKey secrets shared c received))
    {previousSender : DevicePubkey K}
    (hsender : ∀ d, d + 2 = q → previousSender = pubkey secrets d)
    (hskip : ((back q 2).map lengths).getD 0 ≤ state.receivingChainMessageNumber + MAX_SKIP) :
    ∃ next, skipMessageKeys state (((back q 2).map lengths).getD 0) previousSender =
      .ok next := by
  cases hback : back q 2 with
  | none =>
      unfold skipMessageKeys
      rw [Option.map_none, Option.getD_none, if_pos (Nat.zero_le _)]
      exact ⟨_, rfl⟩
  | some d =>
      rw [hback] at hchain hskip
      rw [hsender d (back_eq_some.mp hback)]
      have hd := back_eq_some.mp hback
      exact skipMessageKeys_ok hchain
        (headerSecrets_honest hlaws hdist hcurrent hnext hn (by omega : d < n)) hskip

/-- The step itself, from a state that knows the peer's next key. -/
theorem ratchetStep_honest (state : SessionState K) (hlaws : SymbolicLaws K) (hdist : Distinct secrets n) (hn : q + 2 < n)
    (hroot : state.rootKey = root secrets shared q)
    (hours : state.ourNextNostrKey = keyPair secrets (q + 1))
    (htheirs : state.theirNextNostrPublicKey = pubkey secrets (q + 2)) {secret : K}
    (hsecret : ValidSecret secret) :
    ratchetStep state secret = .ok { state with
      previousSendingChainMessageCount := state.sendingChainMessageNumber
      sendingChainMessageNumber := 0
      receivingChainMessageNumber := 0
      receivingChainKey := some (chainStart secrets shared q)
      ourCurrentNostrKey := some (keyPair secrets (q + 1))
      ourNextNostrKey := keyPair (draw secrets (q + 3) secret) (q + 3)
      rootKey := root (draw secrets (q + 3) secret) shared (q + 2)
      sendingChainKey := some (chainStart (draw secrets (q + 3) secret) shared (q + 1)) } := by
  have hagree : ∀ i < q + 3, secrets i = draw secrets (q + 3) secret i :=
    fun i hi => draw_of_lt secrets secret hi
  have hkey1 : getConversationKey (secrets (q + 1)) (pubkey secrets (q + 2)) =
      .ok (agreement secrets q) := by
    rw [getConversationKey_pubkey hlaws hdist (by omega) hn, agreement,
      agreed_comm hlaws (hdist.valid _ (by omega)) (hdist.valid _ hn)]
  have hkey2 : getConversationKey secret (pubkey secrets (q + 2)) =
      .ok (agreement (draw secrets (q + 3) secret) (q + 1)) := by
    rw [agreement, draw_self, ← hagree (q + 2) (by omega)]
    exact conversationKey_agreed hlaws hsecret (hdist.valid _ hn)
  have hrootNext : (kdf2 (root secrets shared q) (.key (agreement secrets q))).1 =
      root (draw secrets (q + 3) secret) shared (q + 1) := by
    rw [root, root_congr hagree shared (by omega : q + 1 < q + 3),
      agreement_congr hagree (by omega)]
  have hpair : keyPair (draw secrets (q + 3) secret) (q + 3) =
      ⟨⟨Primitives.publicKey secret⟩, secret⟩ := by
    rw [keyPair, pubkey, draw_self]
  unfold ratchetStep
  rw [hours, htheirs, hroot]
  change (getConversationKey (secrets (q + 1)) _ >>= _) = _
  rw [hkey1]
  change (getPublicKey secret >>= _) = _
  rw [getPublicKey_valid hsecret]
  change (getConversationKey secret _ >>= _) = _
  rw [hkey2, hpair]
  change Except.ok _ = Except.ok _
  change Primitives.hkdf (root secrets shared q) (.key (agreement secrets q)) 1 = _ at hrootNext
  rw [hrootNext]
  rfl

/-- A message of the peer's next chain moves the party to phase `q + 2` and keeps the keys of the
chain it leaves. -/
theorem ratchetForHeader_honest (hlaws : SymbolicLaws K) (hdist : Distinct secrets n)
    (hat : AtPhase secrets shared lengths q received state) (hn : q + 2 < n)
    (hunsent : lengths (q + 1) = 0) {secret : K} (hsecret : ValidSecret secret)
    (h : ratchetForHeader state (chainHeader secrets lengths q p) secret = .ok ready) :
    AtPhase (draw secrets (q + 3) secret) shared lengths (q + 2) 0 ready ∧
      Departure secrets shared lengths q received state ready := by
  have hlearn := learnKeys_next (p := p) hdist hat hn
  unfold ratchetForHeader at h
  generalize learnKeys state (chainHeader secrets lengths q p) = learned at h hlearn
  rw [except_bind_eq_ok] at h
  obtain ⟨left, hleft, h⟩ := h
  have hsender : ∀ d, d + 2 = q →
      state.theirCurrentNostrPublicKey.getD state.theirNextNostrPublicKey = pubkey secrets d := by
    intro d hd
    rw [hat.theirCurrent, back_eq_some.mpr hd]
    rfl
  have hleave := leaveChain_honest hlaws hdist (by omega : q + 1 < n)
    (by rw [hlearn]; exact hat.ourCurrent) (by rw [hlearn]; exact hat.ourNext)
    (by rw [hlearn]; exact hat.receivingChain) (by rw [hlearn]; exact hat.receivingNumber)
    hsender hleft
  obtain ⟨receivingChainKey, receivingChainMessageNumber, skippedKeys, hframe⟩ :=
    skipMessageKeys_frame hleft
  rw [hlearn] at hframe
  rw [ratchetStep_honest left hlaws hdist hn (by rw [hframe]; exact hat.rootKey)
    (by rw [hframe]; exact hat.ourNext) (by rw [hframe]) hsecret] at h
  obtain rfl := Except.ok.inj h
  subst hlearn hframe
  refine ⟨?_, hleave.entries, hleave.skippedKey⟩
  have hagree : ∀ i < q + 3, secrets i = draw secrets (q + 3) secret i :=
    fun i hi => draw_of_lt secrets secret hi
  have hback1 : back (q + 2) 1 = some (q + 1) := back_eq_some.mpr rfl
  have hback2 : back (q + 2) 2 = some q := back_eq_some.mpr rfl
  exact {
    version := hat.version
    rootKey := rfl
    theirCurrent := by
      rw [hback2]
      exact congrArg some (pubkey_congr hagree (by omega))
    theirNext := pubkey_congr hagree (by omega)
    ourCurrent := by
      rw [hback1]
      exact congrArg some (keyPair_congr hagree (by omega))
    ourNext := rfl
    receivingChain := by
      rw [hback2, Option.map_some]
      exact congrArg some (chainStart_congr hagree shared (by omega))
    sendingChain := by
      rw [hback1, Option.map_some, hunsent]
      rfl
    sendingNumber := by
      rw [hback1, Option.map_some, hunsent]
      rfl
    receivingNumber := rfl
    previousCount := by
      rw [back_add q 1 2]
      exact hat.sendingNumber }

/-- It succeeds unless too many messages of the chain it leaves are missing. -/
theorem ratchetForHeader_ok (hlaws : SymbolicLaws K) (hdist : Distinct secrets n)
    (hat : AtPhase secrets shared lengths q received state) (hn : q + 2 < n)
    (hskip : (chainHeader secrets lengths q p).previousChainLength ≤
      state.receivingChainMessageNumber + MAX_SKIP) {secret : K} (hsecret : ValidSecret secret) :
    ∃ ready, ratchetForHeader state (chainHeader secrets lengths q p) secret = .ok ready := by
  have hsender : ∀ d, d + 2 = q →
      state.theirCurrentNostrPublicKey.getD state.theirNextNostrPublicKey = pubkey secrets d := by
    intro d hd
    rw [hat.theirCurrent, back_eq_some.mpr hd]
    rfl
  have hlearn := learnKeys_next (p := p) hdist hat hn
  unfold ratchetForHeader
  generalize learnKeys state (chainHeader secrets lengths q p) = learned at hlearn
  obtain ⟨left, hleft⟩ := leaveChain_ok hlaws hdist (by omega : q + 1 < n)
    (by rw [hlearn]; exact hat.ourCurrent) (by rw [hlearn]; exact hat.ourNext)
    (by rw [hlearn]; exact hat.receivingChain) hsender
    (by rw [hlearn]; exact hskip : _ ≤ learned.receivingChainMessageNumber + MAX_SKIP)
  change ∃ ready, (skipMessageKeys learned (((back q 2).map lengths).getD 0) _ >>= _) = _
  rw [hleft]
  change ∃ ready, ratchetStep left secret = _
  obtain ⟨receivingChainKey, receivingChainMessageNumber, skippedKeys, hframe⟩ :=
    skipMessageKeys_frame hleft
  rw [hlearn] at hframe
  rw [ratchetStep_honest left hlaws hdist hn (by rw [hframe]; exact hat.rootKey)
    (by rw [hframe]; exact hat.ourNext) (by rw [hframe]) hsecret]
  exact ⟨_, rfl⟩

/-- What `receiveEvent` does with a message of the peer: it leaves the state as it was, or it
returns the inner event and has accepted the message. -/
theorem receiveEvent_honest (hlaws : SymbolicLaws K) (hdist : Distinct secrets n)
    (hat : AtPhase secrets shared lengths q received state) (hn : q + 1 < n)
    (hc : c ≤ q) (hparity : c % 2 = q % 2)
    (hevent : HonestEvent secrets shared lengths c p text event) (hunsent : lengths (q + 1) = 0)
    {secret : K} (hdraw : c = q → Distinct (draw secrets (q + 3) secret) (q + 4))
    (codec : RumorCodec T) (callbacks : JsonValue → Except String Unit)
    {result : Except String (Option JsonValue)}
    (h : receiveEvent codec callbacks state event secret = (result, next)) :
    (next = state ∧ ∀ innerEvent, result ≠ .ok (some innerEvent)) ∨
    (∃ innerEvent, result = .ok (some innerEvent) ∧
        parseInnerRumor codec text = .ok innerEvent) ∧
      ((c + 2 ≤ q ∧ ∃ received', Reception secrets shared lengths q received c p state next
          received') ∨
        (c = q ∧ ∃ ready received', Departure secrets shared lengths q received state ready ∧
          Reception (draw secrets (q + 3) secret) shared lengths (q + 2) 0 q p ready next
            received')) := by
  unfold receiveEvent at h
  split at h
  · cases h
    exact .inl ⟨rfl, fun innerEvent heq => by cases heq⟩
  · cases hopened : receiveOpened codec callbacks state event secret with
    | error message =>
        rw [hopened] at h
        cases h
        refine .inl ⟨rfl, ?_⟩
        intro innerEvent heq
        unfold caught at heq
        split at heq
        · cases heq
        · cases heq
    | ok outcome =>
        obtain ⟨innerEvent, after⟩ := outcome
        rw [hopened] at h
        cases h
        unfold receiveOpened at hopened
        rw [except_bind_eq_ok] at hopened
        obtain ⟨⟨header, opened⟩, hheader, hopened⟩ := hopened
        obtain ⟨rfl, hcase⟩ := decryptHeader_honest hlaws hdist hat hn hc hparity hevent hheader
        dsimp only at hopened
        split at hopened
        · cases hopened
          exact .inl ⟨rfl, fun innerEvent heq => by cases heq⟩
        · rename_i hheld
          rw [except_bind_eq_ok] at hopened
          obtain ⟨ready, hready, hopened⟩ := hopened
          rw [except_bind_eq_ok] at hopened
          obtain ⟨⟨plaintext, after⟩, hdecrypted, hopened⟩ := hopened
          rw [except_bind_eq_ok] at hopened
          obtain ⟨parsed, hparsed, hopened⟩ := hopened
          rw [except_bind_eq_ok] at hopened
          obtain ⟨-, -, hopened⟩ := hopened
          cases hopened
          rw [hevent.sender] at hdecrypted hheld
          obtain ⟨rfl, hcq⟩ | ⟨rfl, rfl⟩ | ⟨rfl, hcq⟩ := hcase
          · cases hready
            rw [learnKeys_current hat hcq] at hdecrypted
            obtain ⟨rfl, hreception⟩ := ratchetDecrypt_honest hlaws hdist hat (by omega) hcq.le
              hevent rfl (fun hlt => absurd hlt (by omega)) hdecrypted
            exact .inr ⟨⟨parsed, rfl, hparsed⟩, .inl ⟨hcq.le, hreception⟩⟩
          · have hdist' := hdraw rfl
            have hagree : ∀ i < c + 3, secrets i = draw secrets (c + 3) secret i :=
              fun i hi => draw_of_lt secrets secret hi
            obtain ⟨hatReady, hleave⟩ := ratchetForHeader_honest hlaws
              (distinct_of_draw hdist') hat (Nat.lt_succ_self _) hunsent
              (draw_self secrets _ secret ▸ hdist'.valid (c + 3) (Nat.lt_succ_self _)) hready
            rw [pubkey_congr hagree (by omega)] at hdecrypted
            obtain ⟨rfl, received', hreception⟩ := ratchetDecrypt_honest hlaws hdist' hatReady
              (Nat.lt_succ_self _) le_rfl (hevent.congr hagree (by omega)) rfl
              (fun hlt => absurd hlt (by omega)) hdecrypted
            exact .inr ⟨⟨parsed, rfl, hparsed⟩, .inr ⟨rfl, ready, received', hleave, hreception⟩⟩
          · cases hready
            have hkey : (state.skippedKey (pubkey secrets c) p).isSome = true := by
              cases hkept : state.skippedKey (pubkey secrets c) p with
              | some key => rfl
              | none =>
                  rw [chainHeader, hkept] at hheld
                  exact absurd rfl hheld
            obtain ⟨rfl, hreception⟩ := ratchetDecrypt_honest hlaws hdist hat (by omega) hcq.le
              hevent rfl (fun _ => hkey) hdecrypted
            exact .inr ⟨⟨parsed, rfl, hparsed⟩, .inl ⟨hcq.le, hreception⟩⟩

end

/-! The keys a party keeps: one for every message it has passed and not accepted. -/

section

variable {K T : Type} [LinearOrder K] [Primitives K T] {secrets secrets' : Nat → K} {shared : K}
  {lengths lengths' : Nat → Nat} {q received received' c p n : Nat}
  {accepted accepted' : DevicePubkey K → Nat → Prop} {state next ready : SessionState K}

/-- A party of phase `q` has passed message `number` of chain `c`. -/
def Passed (lengths : Nat → Nat) (q received c number : Nat) : Prop :=
  (c + 2 < q ∧ number < lengths c) ∨ (c + 2 = q ∧ number < received)

structure KeyStore (secrets : Nat → K) (shared : K) (lengths : Nat → Nat) (q received : Nat)
    (accepted : DevicePubkey K → Nat → Prop) (state : SessionState K) : Prop where
  kept : ∀ c number, c % 2 = q % 2 → Passed lengths q received c number →
    ¬ accepted (pubkey secrets c) number →
    state.skippedKey (pubkey secrets c) number = some (messageKey secrets shared c number)
  only : ∀ sender number, (state.skippedKey sender number).isSome = true →
    ∃ c, c % 2 = q % 2 ∧ sender = pubkey secrets c ∧ Passed lengths q received c number ∧
      ¬ accepted sender number
  passed : ∀ c number, c ≤ q → c % 2 = q % 2 → accepted (pubkey secrets c) number →
    Passed lengths q received c number
  entries : Entries secrets q state

theorem Passed.le {number : Nat} (h : Passed lengths q received c number) : c + 2 ≤ q := by
  obtain ⟨hlt, -⟩ | ⟨heq, -⟩ := h
  · exact hlt.le
  · exact heq.le

theorem KeyStore.congr (h : KeyStore secrets shared lengths q received accepted state)
    (hagree : ∀ i < n, secrets i = secrets' i) (hn : q < n) :
    KeyStore secrets' shared lengths q received accepted state where
  kept := by
    intro c number hparity hpassed haccepted
    have hle := hpassed.le
    rw [← pubkey_congr hagree (by omega)] at haccepted ⊢
    rw [← messageKey_congr hagree shared (by omega : c + 2 < n)]
    exact h.kept c number hparity hpassed haccepted
  only := by
    intro sender number hsome
    obtain ⟨c, hparity, hsender, hpassed, haccepted⟩ := h.only sender number hsome
    have hle := hpassed.le
    exact ⟨c, hparity, hsender.trans (pubkey_congr hagree (by omega)), hpassed, haccepted⟩
  passed := by
    intro c number hle hparity haccepted
    rw [← pubkey_congr hagree (by omega)] at haccepted
    exact h.passed c number hle hparity haccepted
  entries := h.entries.congr hagree (by omega)

/-- The keys of the chains left behind are all that matters. -/
theorem KeyStore.of_lengths (h : KeyStore secrets shared lengths q received accepted state)
    (hlengths : ∀ c, c + 2 < q → c % 2 = q % 2 → lengths c = lengths' c) :
    KeyStore secrets shared lengths' q received accepted state := by
  have hiff : ∀ c number, c % 2 = q % 2 →
      (Passed lengths q received c number ↔ Passed lengths' q received c number) := by
    intro c number hparity
    refine or_congr ?_ Iff.rfl
    constructor
    · rintro ⟨hlt, hnumber⟩
      exact ⟨hlt, hlengths c hlt hparity ▸ hnumber⟩
    · rintro ⟨hlt, hnumber⟩
      exact ⟨hlt, (hlengths c hlt hparity).symm ▸ hnumber⟩
  exact {
    kept := fun c number hparity hpassed =>
      h.kept c number hparity ((hiff c number hparity).mpr hpassed)
    only := by
      intro sender number hsome
      obtain ⟨c, hparity, hsender, hpassed, haccepted⟩ := h.only sender number hsome
      exact ⟨c, hparity, hsender, (hiff c number hparity).mp hpassed, haccepted⟩
    passed := fun c number hle hparity haccepted =>
      (hiff c number hparity).mp (h.passed c number hle hparity haccepted)
    entries := h.entries }

theorem KeyStore.of_skippedKeys (h : KeyStore secrets shared lengths q received accepted state)
    (hsame : next.skippedKeys = state.skippedKeys) :
    KeyStore secrets shared lengths q received accepted next where
  kept := by
    intro c number hparity hpassed haccepted
    rw [skippedKey_of_skippedKeys hsame]
    exact h.kept c number hparity hpassed haccepted
  only := by
    intro sender number hsome
    rw [skippedKey_of_skippedKeys hsame] at hsome
    exact h.only sender number hsome
  passed := h.passed
  entries := h.entries.of_skippedKeys hsame

theorem KeyStore.of_accepted (h : KeyStore secrets shared lengths q received accepted state)
    (hiff : ∀ c number, c ≤ q → c % 2 = q % 2 →
      (accepted (pubkey secrets c) number ↔ accepted' (pubkey secrets c) number)) :
    KeyStore secrets shared lengths q received accepted' state where
  kept := by
    intro c number hparity hpassed haccepted
    have hle := hpassed.le
    exact h.kept c number hparity hpassed
      (fun hold => haccepted ((hiff c number (by omega) hparity).mp hold))
  only := by
    intro sender number hsome
    obtain ⟨c, hparity, rfl, hpassed, haccepted⟩ := h.only sender number hsome
    have hle := hpassed.le
    exact ⟨c, hparity, rfl, hpassed,
      fun hnew => haccepted ((hiff c number (by omega) hparity).mpr hnew)⟩
  passed := fun c number hle hparity haccepted =>
    h.passed c number hle hparity ((hiff c number hle hparity).mpr haccepted)
  entries := h.entries

/-- A message that was not passed, or was accepted, has no key kept. -/
theorem KeyStore.none_kept (h : KeyStore secrets shared lengths q received accepted state)
    (hdist : Distinct secrets n) (hn : q < n) (hc : c ≤ q) {number : Nat}
    (hnot : ¬ Passed lengths q received c number ∨ accepted (pubkey secrets c) number) :
    state.skippedKey (pubkey secrets c) number = none := by
  cases hkey : state.skippedKey (pubkey secrets c) number with
  | none => rfl
  | some key =>
      have hsome : (state.skippedKey (pubkey secrets c) number).isSome = true := by
        rw [hkey]
        rfl
      obtain ⟨d, -, hsender, hpassed, haccepted⟩ := h.only _ number hsome
      have hle := hpassed.le
      obtain rfl := hdist.inj c d (by omega) (by omega) hsender
      obtain hunpassed | hdone := hnot
      · exact absurd hpassed hunpassed
      · exact absurd hdone haccepted

/-- Accepting a message moves its key out of the store and those of the messages passed into it. -/
theorem KeyStore.reception (h : KeyStore secrets shared lengths q received accepted state)
    (hdist : Distinct secrets n) (hn : q < n) (hc : c + 2 ≤ q) (hparity : c % 2 = q % 2)
    (hlength : p < lengths c)
    (hnext : Reception secrets shared lengths q received c p state next received') :
    KeyStore secrets shared lengths q received'
      (fun sender number => accepted sender number ∨ (sender = pubkey secrets c ∧ number = p))
      next := by
  have hmono : ∀ d number, Passed lengths q received d number →
      Passed lengths q received' d number := by
    rintro d number (hleft | ⟨hd, hlt⟩)
    · exact .inl hleft
    · refine .inr ⟨hd, ?_⟩
      obtain ⟨rfl, -⟩ | ⟨-, hle, rfl⟩ := hnext.reached
      · exact hlt
      · omega
  have hnew : ∀ d number, ¬ Passed lengths q received d number →
      Passed lengths q received' d number → d = c ∧ received ≤ number ∧ number < received' := by
    rintro d number hold (hleft | ⟨hd, hlt⟩)
    · exact absurd (.inl hleft) hold
    · have hge : received ≤ number := not_lt.mp (fun hlt => hold (.inr ⟨hd, hlt⟩))
      obtain ⟨rfl, -⟩ | ⟨hcq, -, -⟩ := hnext.reached
      · omega
      · exact ⟨by omega, hge, hlt⟩
  have hdone : Passed lengths q received' c p := by
    obtain ⟨rfl, hsome⟩ | ⟨hcq, -, rfl⟩ := hnext.reached
    · obtain ⟨d, -, hsender, hpassed, -⟩ := h.only _ _ hsome
      have hle := hpassed.le
      obtain rfl := hdist.inj c d (by omega) (by omega) hsender
      exact hpassed
    · exact .inr ⟨hcq, Nat.lt_succ_self p⟩
  exact {
    kept := by
      intro d number hd hpassed haccepted
      obtain ⟨hold, hother⟩ := not_or.mp haccepted
      have hle := hpassed.le
      rw [hnext.skippedKey, if_neg hother]
      by_cases hbefore : Passed lengths q received d number
      · rw [if_neg]
        · exact h.kept d number hd hbefore hold
        · rintro ⟨hsender, hge, hlt⟩
          obtain rfl := hdist.inj d c (by omega) (by omega) hsender
          obtain ⟨hlt', -⟩ | ⟨-, hlt'⟩ := hbefore
          · obtain ⟨rfl, -⟩ | ⟨hcq, -, -⟩ := hnext.reached
            · omega
            · omega
          · omega
      · obtain ⟨rfl, hge, hlt⟩ := hnew d number hbefore hpassed
        rw [if_pos ⟨rfl, hge, hlt⟩]
    only := by
      intro sender number hsome
      rw [hnext.skippedKey] at hsome
      split at hsome
      · cases hsome
      · rename_i hother
        split at hsome
        · rename_i hwithin
          obtain ⟨rfl, hge, hlt⟩ := hwithin
          refine ⟨c, hparity, rfl, ?_, ?_⟩
          · obtain ⟨rfl, -⟩ | ⟨hcq, -, -⟩ := hnext.reached
            · omega
            · exact .inr ⟨hcq, hlt⟩
          · rintro (hold | hsame)
            · obtain ⟨hlt', -⟩ | ⟨-, hlt'⟩ := h.passed c number (by omega) hparity hold
              · obtain ⟨rfl, -⟩ | ⟨hcq, -, -⟩ := hnext.reached
                · omega
                · omega
              · omega
            · exact hother hsame
        · obtain ⟨d, hd, hsender, hpassed, haccepted⟩ := h.only sender number hsome
          exact ⟨d, hd, hsender, hmono d number hpassed,
            fun hcase => hcase.elim haccepted hother⟩
    passed := by
      rintro d number hd hdParity (hold | ⟨hsender, rfl⟩)
      · exact hmono d number (h.passed d number hd hdParity hold)
      · obtain rfl := hdist.inj d c (by omega) (by omega) hsender
        exact hdone
    entries := hnext.entries h.entries }

/-- Leaving the receiving chain passes all that was sent on it. -/
theorem KeyStore.departure (h : KeyStore secrets shared lengths q received accepted state)
    (hdist : Distinct secrets n) (hn : q < n) (hreceived : ∀ d, d + 2 = q → received ≤ lengths d)
    (hunsent : ∀ number, ¬ accepted (pubkey secrets (q + 2)) number)
    (hready : Departure secrets shared lengths q received state ready) :
    KeyStore secrets shared lengths (q + 2) 0 accepted ready where
  kept := by
    rintro c number hparity (⟨hlt, hnumber⟩ | ⟨-, hnumber⟩) haccepted
    · obtain ⟨d, hd, hsender, -, -, hkey⟩ | ⟨hshort, hkey⟩ :=
        hready.skippedKey (pubkey secrets c) number
      · rw [hkey, hdist.inj c d (by omega) (by omega) hsender]
      · rw [hkey]
        refine h.kept c number (by omega) ?_ haccepted
        by_cases hcq : c + 2 = q
        · refine .inr ⟨hcq, not_le.mp (fun hle => ?_)⟩
          have hall := hshort c hcq rfl hle
          omega
        · exact .inl ⟨by omega, hnumber⟩
    · cases hnumber
  only := by
    intro sender number hsome
    obtain ⟨d, hd, hsender, hge, hlt, -⟩ | ⟨-, hkey⟩ := hready.skippedKey sender number
    · refine ⟨d, by omega, hsender, .inl ⟨by omega, hlt⟩, ?_⟩
      intro haccepted
      rw [hsender] at haccepted
      obtain ⟨hlt', -⟩ | ⟨-, hlt'⟩ := h.passed d number (by omega) (by omega) haccepted
      · omega
      · omega
    · rw [hkey] at hsome
      obtain ⟨c, hparity, hsender, hpassed, haccepted⟩ := h.only sender number hsome
      refine ⟨c, by omega, hsender, .inl ?_, haccepted⟩
      obtain ⟨hlt, hnumber⟩ | ⟨hcq, hnumber⟩ := hpassed
      · exact ⟨by omega, hnumber⟩
      · exact ⟨by omega, hnumber.trans_le (hreceived c hcq)⟩
  passed := by
    intro c number hle hparity haccepted
    by_cases hnew : c = q + 2
    · subst hnew
      exact absurd haccepted (hunsent number)
    · obtain ⟨hlt, hnumber⟩ | ⟨hcq, hnumber⟩ :=
        h.passed c number (by omega) (by omega) haccepted
      · exact .inl ⟨by omega, hnumber⟩
      · exact .inl ⟨by omega, hnumber.trans_le (hreceived c hcq)⟩
  entries := by
    intro sender entry hentry
    obtain ⟨c, hc, hrest⟩ := hready.entries h.entries sender entry hentry
    exact ⟨c, by omega, hrest⟩

end

section

variable {K T : Type} [LinearOrder K] [Primitives K T] {secrets : Nat → K} {shared : K}
  {lengths : Nat → Nat} {q received c p n : Nat} {accepted : DevicePubkey K → Nat → Prop}
  {state next : SessionState K} {text : T} {event : MessageEvent K T}

/-- What `receiveEvent` returns once the header is read. -/
theorem receiveEvent_opened (codec : RumorCodec T) {callbacks : JsonValue → Except String Unit}
    {innerEvent : JsonValue} (hversion : state.metadataPrivacyVersion = some METADATA_PRIVACY_VERSION)
    (heventVersion : event.hasMetadataPrivacyVersion = true) {header : Header K}
    {opened : HeaderKey} (hheader : decryptHeader state event = .ok (header, opened))
    (hheld : opened = .skipped → (state.skippedKey event.pubkey header.number).isSome = true)
    {ready : SessionState K} {secret : K}
    (hready : applyHeader state header opened secret = .ok ready)
    (hdecrypted : ratchetDecrypt ready header event.content event.pubkey = .ok (text, next))
    (hparsed : parseInnerRumor codec text = .ok innerEvent)
    (hcallbacks : callbacks innerEvent = .ok ()) :
    receiveEvent codec callbacks state event secret = (.ok (some innerEvent), next) := by
  have hopened : receiveOpened codec callbacks state event secret =
      .ok (some innerEvent, next) := by
    unfold receiveOpened
    rw [hheader]
    have hcond : (decide (opened = .skipped) &&
        (state.skippedKey event.pubkey header.number).isNone) = false := by
      cases hkey : state.skippedKey event.pubkey header.number with
      | some key => exact Bool.and_false _
      | none =>
          cases opened with
          | current => rfl
          | next => rfl
          | skipped =>
              rw [hkey] at hheld
              cases hheld rfl
    change (if (decide (opened = .skipped) &&
        (state.skippedKey event.pubkey header.number).isNone) = true then _ else _) = _
    rw [if_neg (Bool.eq_false_iff.mp hcond), hready]
    change (ratchetDecrypt ready header event.content event.pubkey >>= _) = _
    rw [hdecrypted]
    change (parseInnerRumor codec text >>= _) = _
    rw [hparsed]
    change (callbacks innerEvent >>= _) = _
    rw [hcallbacks]
    rfl
  unfold receiveEvent
  rw [if_neg, hopened]
  rw [hversion, heventVersion]
  decide

/-- A message that was not accepted before is accepted, unless its number is too far ahead. -/
theorem receiveEvent_ok (hlaws : SymbolicLaws K) (hdist : Distinct secrets n)
    (hat : AtPhase secrets shared lengths q received state)
    (hstore : KeyStore secrets shared lengths q received accepted state) (hn : q + 1 < n)
    (hc : c ≤ q) (hparity : c % 2 = q % 2)
    (hevent : HonestEvent secrets shared lengths c p text event) (hlength : p < lengths c)
    (hunaccepted : ¬ accepted (pubkey secrets c) p) (hunsent : lengths (q + 1) = 0) {secret : K}
    (hdraw : c = q → Distinct (draw secrets (q + 3) secret) (q + 4))
    (hskip : c + 2 = q → p ≤ received + MAX_SKIP)
    (hskipNext : c = q → p ≤ MAX_SKIP ∧
      (chainHeader secrets lengths c p).previousChainLength ≤ received + MAX_SKIP)
    {codec : RumorCodec T} {innerEvent : JsonValue} {callbacks : JsonValue → Except String Unit}
    (hparsed : parseInnerRumor codec text = .ok innerEvent)
    (hcallbacks : callbacks innerEvent = .ok ()) :
    ∃ next, receiveEvent codec callbacks state event secret = (.ok (some innerEvent), next) := by
  obtain ⟨encryptedHeader, -, hheader⟩ := decryptHeader_eq hlaws hdist hat hn hc hevent
  by_cases hcurrent : c + 2 = q
  · rw [if_pos hcurrent] at hheader
    have hready : state.skippedKey (pubkey secrets c) p = some (messageKey secrets shared c p) ∨
        state.skippedKey (pubkey secrets c) p = none ∧ c + 2 = q ∧ received ≤ p ∧
          p ≤ received + MAX_SKIP := by
      by_cases hpassed : p < received
      · exact .inl (hstore.kept c p hparity (.inr ⟨hcurrent, hpassed⟩) hunaccepted)
      · refine .inr ⟨hstore.none_kept hdist (by omega) hc (.inl ?_), hcurrent, by omega,
          hskip hcurrent⟩
        rintro (⟨hlt, -⟩ | ⟨-, hlt⟩)
        · omega
        · exact hpassed hlt
    obtain ⟨next, hdecrypted⟩ := ratchetDecrypt_ok hlaws hdist hat hn hevent
      (rfl : (chainHeader secrets lengths c p).number = p) hready
    rw [← hevent.sender] at hdecrypted
    refine ⟨next, receiveEvent_opened codec hat.version hevent.version hheader ?_ ?_ hdecrypted
      hparsed hcallbacks⟩
    · intro hopened
      cases hopened
    · unfold applyHeader
      rw [learnKeys_current hat hcurrent]
      rfl
  · rw [if_neg hcurrent] at hheader
    by_cases hnext : c = q
    · rw [if_pos hnext] at hheader
      subst hnext
      have hdist' := hdraw rfl
      have hagree : ∀ i < c + 3, secrets i = draw secrets (c + 3) secret i :=
        fun i hi => draw_of_lt secrets secret hi
      have hdistOld := distinct_of_draw hdist'
      have hsecret : ValidSecret secret :=
        draw_self secrets _ secret ▸ hdist'.valid (c + 3) (Nat.lt_succ_self _)
      obtain ⟨hnumber, hprevious⟩ := hskipNext rfl
      obtain ⟨ready, hready⟩ := ratchetForHeader_ok hlaws hdistOld hat (Nat.lt_succ_self _)
        (p := p) (by rw [hat.receivingNumber]; exact hprevious) hsecret
      obtain ⟨hatReady, hleave⟩ := ratchetForHeader_honest hlaws hdistOld hat (Nat.lt_succ_self _)
        hunsent hsecret hready
      have hmissing : ready.skippedKey (pubkey secrets c) p = none := by
        obtain ⟨d, hd, hsender, -⟩ | ⟨-, hkey⟩ := hleave.skippedKey (pubkey secrets c) p
        · have hsame := hdist.inj c d (by omega) (by omega) hsender
          omega
        · rw [hkey]
          refine hstore.none_kept hdist (by omega) le_rfl (.inl ?_)
          intro hpassed
          have hle := hpassed.le
          omega
      have hevent' := hevent.congr hagree (by omega)
      rw [pubkey_congr hagree (by omega)] at hmissing
      obtain ⟨next, hdecrypted⟩ := ratchetDecrypt_ok hlaws hdist' hatReady (Nat.lt_succ_self _)
        hevent' (rfl : (chainHeader secrets lengths c p).number = p)
        (.inr ⟨hmissing, rfl, Nat.zero_le _, by omega⟩)
      rw [← hevent'.sender] at hdecrypted
      refine ⟨next, receiveEvent_opened codec hat.version hevent.version hheader ?_ hready
        hdecrypted hparsed hcallbacks⟩
      intro hopened
      cases hopened
    · have hkept := hstore.kept c p hparity (.inl ⟨by omega, hlength⟩) hunaccepted
      have hheld : (state.skippedKey (pubkey secrets c) p).isSome = true := by
        rw [hkept]
        rfl
      have hopened := decryptHeader_skipped hlaws hdist hat hstore.entries hn (by omega) hevent
        hheld
      obtain ⟨next, hdecrypted⟩ := ratchetDecrypt_ok hlaws hdist hat hn hevent
        (rfl : (chainHeader secrets lengths c p).number = p) (.inl hkept)
      rw [← hevent.sender] at hdecrypted hheld
      exact ⟨next, receiveEvent_opened codec hat.version hevent.version hopened (fun _ => hheld)
        rfl hdecrypted hparsed hcallbacks⟩

/-- A message that was accepted before is not accepted again. -/
theorem receiveEvent_accepted (hlaws : SymbolicLaws K) (hdist : Distinct secrets n)
    (hat : AtPhase secrets shared lengths q received state)
    (hstore : KeyStore secrets shared lengths q received accepted state) (hn : q + 1 < n)
    (hc : c ≤ q) (hparity : c % 2 = q % 2)
    (hevent : HonestEvent secrets shared lengths c p text event)
    (haccepted : accepted (pubkey secrets c) p) (hunsent : lengths (q + 1) = 0) {secret : K}
    (hdraw : c = q → Distinct (draw secrets (q + 3) secret) (q + 4))
    (codec : RumorCodec T) (callbacks : JsonValue → Except String Unit)
    {result : Except String (Option JsonValue)}
    (h : receiveEvent codec callbacks state event secret = (result, next)) :
    ∀ innerEvent, result ≠ .ok (some innerEvent) := by
  have hpassed := hstore.passed c p hc hparity haccepted
  have hmissing := hstore.none_kept hdist (by omega) hc (.inr haccepted)
  have hle := hpassed.le
  obtain ⟨-, hno⟩ | ⟨-, ⟨-, received', hnext⟩ | ⟨rfl, -⟩⟩ := receiveEvent_honest hlaws hdist hat hn
    hc hparity hevent hunsent hdraw codec callbacks h
  · exact hno
  · obtain ⟨-, hsome⟩ | ⟨hcq, hge, -⟩ := hnext.reached
    · rw [hmissing] at hsome
      cases hsome
    · obtain ⟨hlt, -⟩ | ⟨-, hlt⟩ := hpassed
      · omega
      · omega
  · omega

end

end NostrDoubleRatchet.TypeScript.DoubleRatchet
