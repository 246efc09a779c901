import NostrDoubleRatchet.TypeScript.Conversation
import NostrDoubleRatchet.TypeScript.SendAtomicity

/-!
The memo of failed receives in `DeviceRecordActor.ts`. An event that a session refused is not
tried on it again while the public keys of the session and its receiving number are as they were.
Such a state reads no more than the earlier one did, but for one case: an event that named a
message whose key was kept was opened with that key, and is opened with the next key of the chain
once the kept key is gone.
-/

namespace NostrDoubleRatchet.TypeScript.DoubleRatchet

section

variable {K T : Type} [LinearOrder K] [Primitives K T]

/-- What the memo compares. -/
structure ReceiveState (K : Type) where
  ourCurrent : Option (DevicePubkey K)
  ourNext : DevicePubkey K
  theirCurrent : Option (DevicePubkey K)
  theirNext : DevicePubkey K
  receivingNumber : Nat
  deriving DecidableEq

def SessionState.receiveState (state : SessionState K) : ReceiveState K where
  ourCurrent := state.ourCurrentNostrKey.map SerializableKeyPair.publicKey
  ourNext := state.ourNextNostrKey.publicKey
  theirCurrent := state.theirCurrentNostrPublicKey
  theirNext := state.theirNextNostrPublicKey
  receivingNumber := state.receivingChainMessageNumber

/-- No subscriber is registered. -/
def noCallbacks : JsonValue → Except String Unit := fun _ => .ok ()

/-- `receiveEvent` returns the inner event. -/
def Accepts (codec : RumorCodec T) (state : SessionState K) (event : MessageEvent K T)
    (ourNextSecretKey : K) (innerEvent : JsonValue) : Prop :=
  (receiveEvent codec noCallbacks state event ourNextSecretKey).1 = .ok (some innerEvent)

/-- `receiveEvent` throws or returns nothing. -/
def Refuses (codec : RumorCodec T) (state : SessionState K) (event : MessageEvent K T)
    (ourNextSecretKey : K) : Prop :=
  ∀ innerEvent, ¬ Accepts codec state event ourNextSecretKey innerEvent

/-- If the header of the event names a message whose key is kept in the earlier state, and a key
of the session opens it, the key is still kept in the later state. -/
def StillKept (state later : SessionState K) (event : MessageEvent K T) : Prop :=
  ∀ header opened, decryptHeader state event = .ok (header, opened) → opened ≠ .skipped →
    (state.skippedKey event.pubkey header.number).isSome = true →
    (later.skippedKey event.pubkey header.number).isSome = true

/-- A key agreement fails for the public key alone. -/
def AgreementLaw (K : Type) {T : Type} [Primitives K T] : Prop :=
  ∀ {secret secret' : K} (publicKey : DevicePubkey K), ValidSecret secret → ValidSecret secret' →
    (getConversationKey (T := T) secret publicKey).isOk = true →
    (getConversationKey (T := T) secret' publicKey).isOk = true

variable {codec : RumorCodec T} {state later next ready : SessionState K}
  {event : MessageEvent K T} {secret secret' : K}

/-- A receive that returns no inner event leaves the state as it was, and one that does passes
every step. -/
theorem receiveEvent_cases {callbacks : JsonValue → Except String Unit}
    {result : Except String (Option JsonValue)}
    (h : receiveEvent codec callbacks state event secret = (result, next)) :
    (next = state ∧ ∀ innerEvent, result ≠ .ok (some innerEvent)) ∨
    ∃ header opened ready text innerEvent, result = .ok (some innerEvent) ∧
      state.metadataPrivacyVersion = some METADATA_PRIVACY_VERSION ∧
      event.hasMetadataPrivacyVersion = true ∧
      decryptHeader state event = .ok (header, opened) ∧
      (opened = .skipped → (state.skippedKey event.pubkey header.number).isSome = true) ∧
      applyHeader state header opened secret = .ok ready ∧
      ratchetDecrypt ready header event.content event.pubkey = .ok (text, next) ∧
      parseInnerRumor codec text = .ok innerEvent := by
  unfold receiveEvent at h
  split at h
  · cases h
    exact .inl ⟨rfl, fun innerEvent heq => by cases heq⟩
  · rename_i hversion
    rw [Bool.or_eq_true, decide_eq_true_iff, Bool.not_eq_true', not_or, not_not,
      Bool.not_eq_false] at hversion
    split at h
    · rename_i innerEvent next' hopened
      cases h
      unfold receiveOpened at hopened
      rw [except_bind_eq_ok] at hopened
      obtain ⟨⟨header, opened⟩, hheader, hopened⟩ := hopened
      dsimp only at hopened
      split at hopened
      · cases hopened
        exact .inl ⟨rfl, fun innerEvent heq => by cases heq⟩
      · rename_i hheld
        rw [except_bind_eq_ok] at hopened
        obtain ⟨ready, hready, hopened⟩ := hopened
        rw [except_bind_eq_ok] at hopened
        obtain ⟨⟨text, after⟩, hdecrypted, hopened⟩ := hopened
        dsimp only at hopened
        rw [except_bind_eq_ok] at hopened
        obtain ⟨rumor, hparsed, hopened⟩ := hopened
        rw [except_bind_eq_ok] at hopened
        obtain ⟨-, -, hopened⟩ := hopened
        cases hopened
        refine .inr ⟨header, opened, ready, text, rumor, rfl, hversion.1, hversion.2, hheader, ?_,
          hready, hdecrypted, hparsed⟩
        intro hskipped
        simpa [hskipped, Option.isSome_iff_ne_none] using hheld
    · rename_i message hopened
      cases h
      refine .inl ⟨rfl, fun innerEvent heq => ?_⟩
      unfold caught at heq
      split at heq
      · cases heq
      · cases heq

/-! `ratchetDecrypt`, by whether a key is kept for the message. -/

theorem ratchetDecrypt_cases {header : Header K} {ciphertext text : T}
    {nostrSender : DevicePubkey K}
    (h : ratchetDecrypt state header ciphertext nostrSender = .ok (text, next)) :
    (∃ messageKey, state.skippedKey nostrSender header.number = some messageKey ∧
      nip44Decrypt ciphertext messageKey = .ok text ∧
      trySkippedMessageKeys state header ciphertext nostrSender = .ok (some (text, next))) ∨
    ∃ skipped receivingChainKey, state.skippedKey nostrSender header.number = none ∧
      skipMessageKeys state header.number nostrSender = .ok skipped ∧
      skipped.receivingChainKey = some receivingChainKey ∧
      nip44Decrypt ciphertext (chainStep (T := T) receivingChainKey).2 = .ok text ∧
      next = { skipped with
        receivingChainKey := some (chainStep (T := T) receivingChainKey).1
        receivingChainMessageNumber := skipped.receivingChainMessageNumber + 1 } := by
  unfold ratchetDecrypt at h
  rw [except_bind_eq_ok] at h
  obtain ⟨kept, hkept, h⟩ := h
  cases kept with
  | some result =>
      cases h
      obtain ⟨⟨messageKey, hkey, hplaintext⟩, -⟩ := trySkippedMessageKeys_eq_some hkept
      exact .inl ⟨messageKey, hkey, hplaintext, hkept⟩
  | none =>
      dsimp only at h
      rw [except_bind_eq_ok] at h
      obtain ⟨skipped, hskipped, h⟩ := h
      cases hchain : skipped.receivingChainKey with
      | none =>
          rw [hchain] at h
          cases h
      | some receivingChainKey =>
          rw [hchain] at h
          dsimp only at h
          rw [except_bind_eq_ok] at h
          obtain ⟨plaintext, hplaintext, h⟩ := h
          cases h
          exact .inr ⟨skipped, receivingChainKey, trySkippedMessageKeys_eq_none hkept, hskipped,
            hchain, hplaintext, rfl⟩

theorem ratchetDecrypt_kept {header : Header K} {ciphertext text : T}
    {nostrSender : DevicePubkey K} {messageKey : K}
    (hkey : state.skippedKey nostrSender header.number = some messageKey)
    (hplaintext : nip44Decrypt ciphertext messageKey = .ok text) :
    ∃ next, ratchetDecrypt state header ciphertext nostrSender = .ok (text, next) := by
  obtain ⟨next, hkept⟩ := trySkippedMessageKeys_some hkey hplaintext
  unfold ratchetDecrypt
  rw [hkept]
  exact ⟨next, rfl⟩

theorem ratchetDecrypt_chain {header : Header K} {ciphertext text : T}
    {nostrSender : DevicePubkey K} {skipped : SessionState K} {receivingChainKey : K}
    (hkey : state.skippedKey nostrSender header.number = none)
    (hskipped : skipMessageKeys state header.number nostrSender = .ok skipped)
    (hchain : skipped.receivingChainKey = some receivingChainKey)
    (hplaintext : nip44Decrypt ciphertext (chainStep (T := T) receivingChainKey).2 = .ok text) :
    ∃ next, ratchetDecrypt state header ciphertext nostrSender = .ok (text, next) := by
  unfold ratchetDecrypt
  rw [trySkippedMessageKeys_none hkey]
  change ∃ next, (skipMessageKeys state header.number nostrSender >>= _) = _
  rw [hskipped]
  dsimp only [bind, Except.bind]
  rw [hchain]
  dsimp only
  rw [hplaintext]
  exact ⟨_, rfl⟩

/-! A state that decrypts what a later one does. -/

/-- Every body that the later state opens without a key kept, and every kept key it has, the
earlier state has as well. -/
structure Covers (T : Type) [Primitives K T] (state later : SessionState K) : Prop where
  receivingChain : later.receivingChainKey = state.receivingChainKey
  receivingNumber : later.receivingChainMessageNumber = state.receivingChainMessageNumber
  ourCurrent : later.ourCurrentNostrKey = state.ourCurrentNostrKey
  agreement : ∀ publicKey,
    (getConversationKey (T := T) later.ourNextNostrKey.privateKey publicKey).isOk = true →
    (getConversationKey (T := T) state.ourNextNostrKey.privateKey publicKey).isOk = true
  entries : ∀ sender, (later.skippedKeys.get? sender).isSome = true →
    (state.skippedKeys.get? sender).isSome = true
  keys : ∀ sender number key, later.skippedKey sender number = some key →
    state.skippedKey sender number = some key

omit [LinearOrder K] [Primitives K T] in
theorem except_eq_ok_of_isOk {α : Type} {x : Except String α} (h : x.isOk = true) :
    ∃ a, x = .ok a := by
  cases x with
  | ok a => exact ⟨a, rfl⟩
  | error message => cases h

theorem Covers.headerSecrets (hcovers : Covers T state later) {nostrSender : DevicePubkey K}
    {headerKeys : List K} (h : headerSecrets (T := T) later nostrSender = .ok headerKeys) :
    ∃ headerKeys', headerSecrets (T := T) state nostrSender = .ok headerKeys' := by
  unfold DoubleRatchet.headerSecrets at h ⊢
  rw [except_bind_eq_ok] at h
  obtain ⟨currentSecrets, hcurrent, h⟩ := h
  rw [except_bind_eq_ok] at h
  obtain ⟨nextSecret, hnext, -⟩ := h
  have hok := hcovers.agreement nostrSender (by rw [hnext]; rfl)
  obtain ⟨secret, hsecret⟩ := except_eq_ok_of_isOk hok
  rw [← hcovers.ourCurrent, hcurrent]
  change ∃ headerKeys', (getConversationKey (T := T) _ _ >>= _) = .ok headerKeys'
  rw [hsecret]
  exact ⟨_, rfl⟩

theorem Covers.skippedEntry (hcovers : Covers T state later) {nostrSender : DevicePubkey K}
    {entry : SkippedKeys K} (h : skippedEntry (T := T) later nostrSender = .ok entry) :
    ∃ entry', skippedEntry (T := T) state nostrSender = .ok entry' := by
  unfold DoubleRatchet.skippedEntry at h ⊢
  cases hstate : state.skippedKeys.get? nostrSender with
  | some entry' => exact ⟨entry', rfl⟩
  | none =>
      have hlater : later.skippedKeys.get? nostrSender = none := by
        rw [← Option.not_isSome_iff_eq_none]
        intro hsome
        have hentry := hcovers.entries nostrSender hsome
        rw [hstate] at hentry
        cases hentry
      rw [hlater] at h
      dsimp only at h
      rw [except_bind_eq_ok] at h
      obtain ⟨headerKeys, hheaderKeys, -⟩ := h
      obtain ⟨headerKeys', hok⟩ := hcovers.headerSecrets hheaderKeys
      dsimp only
      rw [hok]
      exact ⟨_, rfl⟩

theorem Covers.skipMessageKeys_ok (hcovers : Covers T state later) {until_ : Nat}
    {nostrSender : DevicePubkey K} {next' : SessionState K}
    (h : skipMessageKeys (T := T) later until_ nostrSender = .ok next') :
    ∃ next, skipMessageKeys (T := T) state until_ nostrSender = .ok next := by
  unfold DoubleRatchet.skipMessageKeys at h ⊢
  rw [hcovers.receivingNumber, hcovers.receivingChain] at h
  split at h
  · rename_i hle
    rw [if_pos hle]
    exact ⟨state, rfl⟩
  · rename_i hlt
    split at h
    · cases h
    · rename_i hbound
      rw [if_neg hlt, if_neg hbound]
      rw [except_bind_eq_ok] at h
      obtain ⟨entry, hentry, h⟩ := h
      obtain ⟨entry', hentry'⟩ := hcovers.skippedEntry hentry
      rw [hentry']
      cases hchain : state.receivingChainKey with
      | none =>
          rw [hchain] at h
          cases h
      | some receivingChainKey => exact ⟨_, rfl⟩

/-- Skipping in both states adds the same keys. -/
theorem Covers.skipMessageKeys (hcovers : Covers T state later) {until_ : Nat}
    {nostrSender : DevicePubkey K} {next' : SessionState K}
    (h : skipMessageKeys (T := T) later until_ nostrSender = .ok next') :
    ∃ next, skipMessageKeys (T := T) state until_ nostrSender = .ok next ∧ Covers T next next' ∧
      ∀ sender number,
        (later.skippedKey sender number = none → state.skippedKey sender number = none) →
        next'.skippedKey sender number = none → next.skippedKey sender number = none := by
  obtain ⟨next, hnext⟩ := hcovers.skipMessageKeys_ok h
  refine ⟨next, hnext, ?_⟩
  obtain ⟨hle', rfl⟩ | ⟨chainKey', entry', hlt', hchain', heq', -, -⟩ := skipMessageKeys_eq_ok h
  · obtain ⟨-, rfl⟩ | ⟨chainKey, entry, hlt, -⟩ := skipMessageKeys_eq_ok hnext
    · exact ⟨hcovers, fun sender number hmissing => hmissing⟩
    · have hnumber := hcovers.receivingNumber
      omega
  · obtain ⟨hle, -⟩ | ⟨chainKey, entry, hlt, hchain, heq, -, -⟩ := skipMessageKeys_eq_ok hnext
    · have hnumber := hcovers.receivingNumber
      omega
    · have hsame : chainKey' = chainKey := by
        have hcommon := hcovers.receivingChain
        rw [hchain, hchain'] at hcommon
        exact Option.some.inj hcommon
      subst hsame
      have hkeys := skippedKey_skipMessageKeys hchain hnext
      have hkeys' := skippedKey_skipMessageKeys hchain' h
      rw [hcovers.receivingNumber] at hkeys'
      refine ⟨⟨?_, ?_, ?_, ?_, ?_, ?_⟩, ?_⟩
      · rw [heq, heq', hcovers.receivingNumber]
      · rw [heq, heq']
      · rw [heq, heq']
        exact hcovers.ourCurrent
      · rw [heq, heq']
        exact hcovers.agreement
      · intro sender
        rw [heq, heq']
        dsimp only
        rw [SortedMap.get?_insert, SortedMap.get?_insert]
        split
        · exact fun hsome => hsome
        · exact hcovers.entries sender
      · intro sender number key hkey
        rw [hkeys'] at hkey
        rw [hkeys]
        split
        · rename_i hpassed
          rw [if_pos hpassed] at hkey
          exact hkey
        · rename_i hpassed
          rw [if_neg hpassed] at hkey
          exact hcovers.keys sender number key hkey
      · intro sender number hmissing hnone
        rw [hkeys'] at hnone
        rw [hkeys]
        split
        · rename_i hpassed
          rw [if_pos hpassed] at hnone
          cases hnone
        · rename_i hpassed
          rw [if_neg hpassed] at hnone
          exact hmissing hnone

/-- With the kept keys of the message alike, what the later state decrypts the earlier one does
too. -/
theorem Covers.ratchetDecrypt (hcovers : Covers T state later) {header : Header K}
    {ciphertext text : T} {nostrSender : DevicePubkey K} {next' : SessionState K}
    (hmissing : later.skippedKey nostrSender header.number = none →
      state.skippedKey nostrSender header.number = none)
    (h : ratchetDecrypt later header ciphertext nostrSender = .ok (text, next')) :
    ∃ next, ratchetDecrypt state header ciphertext nostrSender = .ok (text, next) := by
  obtain ⟨messageKey, hkey, hplaintext, -⟩ |
    ⟨skipped', receivingChainKey, hkey, hskipped', hchain', hplaintext, -⟩ :=
    ratchetDecrypt_cases h
  · exact ratchetDecrypt_kept (hcovers.keys _ _ _ hkey) hplaintext
  · obtain ⟨skipped, hskipped, hcovers', -⟩ := hcovers.skipMessageKeys hskipped'
    have hchain := hcovers'.receivingChain
    rw [hchain'] at hchain
    exact ratchetDecrypt_chain (hmissing hkey) hskipped hchain.symm hplaintext

theorem learnKeys_frame (state : SessionState K) (header : Header K) :
    ∃ theirCurrent theirNext, learnKeys state header = { state with
      theirCurrentNostrPublicKey := theirCurrent
      theirNextNostrPublicKey := theirNext } := by
  unfold learnKeys
  split
  · exact ⟨_, _, rfl⟩
  · exact ⟨_, _, rfl⟩

theorem Covers.learnKeys (hcovers : Covers T state later) (header : Header K) :
    Covers T (learnKeys state header) (learnKeys later header) := by
  obtain ⟨_, _, hstate⟩ := learnKeys_frame state header
  obtain ⟨_, _, hlater⟩ := learnKeys_frame later header
  rw [hstate, hlater]
  exact ⟨hcovers.receivingChain, hcovers.receivingNumber, hcovers.ourCurrent, hcovers.agreement,
    hcovers.entries, hcovers.keys⟩

theorem theirNext_learnKeys (state : SessionState K) (header : Header K) :
    (learnKeys state header).theirNextNostrPublicKey = header.nextPublicKey := by
  unfold learnKeys
  split
  · rfl
  · rename_i hsame
    exact not_not.mp hsame

theorem skippedKey_learnKeys (state : SessionState K) (header : Header K)
    (sender : DevicePubkey K) (number : Nat) :
    (learnKeys state header).skippedKey sender number = state.skippedKey sender number := by
  obtain ⟨_, _, hstate⟩ := learnKeys_frame state header
  exact skippedKey_of_skippedKeys (by rw [hstate]) sender number

/-- The later state is the earlier one with fewer keys kept, as far as receiving goes. -/
structure Reduced (state later : SessionState K) : Prop where
  version : later.metadataPrivacyVersion = state.metadataPrivacyVersion
  rootKey : later.rootKey = state.rootKey
  theirCurrent : later.theirCurrentNostrPublicKey = state.theirCurrentNostrPublicKey
  theirNext : later.theirNextNostrPublicKey = state.theirNextNostrPublicKey
  ourCurrent : later.ourCurrentNostrKey = state.ourCurrentNostrKey
  ourNext : later.ourNextNostrKey = state.ourNextNostrKey
  receivingChain : later.receivingChainKey = state.receivingChainKey
  receivingNumber : later.receivingChainMessageNumber = state.receivingChainMessageNumber
  headerKeys : ∀ sender entry, later.skippedKeys.get? sender = some entry →
    ∃ old, state.skippedKeys.get? sender = some old ∧ old.headerKeys = entry.headerKeys
  keys : ∀ sender number key, later.skippedKey sender number = some key →
    state.skippedKey sender number = some key

omit [Primitives K T] in
theorem Reduced.refl (state : SessionState K) : Reduced state state where
  version := rfl
  rootKey := rfl
  theirCurrent := rfl
  theirNext := rfl
  ourCurrent := rfl
  ourNext := rfl
  receivingChain := rfl
  receivingNumber := rfl
  headerKeys _ entry hentry := ⟨entry, hentry, rfl⟩
  keys _ _ _ hkey := hkey

theorem Reduced.covers (h : Reduced state later) : Covers T state later where
  receivingChain := h.receivingChain
  receivingNumber := h.receivingNumber
  ourCurrent := h.ourCurrent
  agreement publicKey hok := by
    rw [h.ourNext] at hok
    exact hok
  entries sender hsome := by
    obtain ⟨entry, hentry⟩ := Option.isSome_iff_exists.mp hsome
    obtain ⟨old, hold, -⟩ := h.headerKeys sender entry hentry
    rw [hold]
    rfl
  keys := h.keys

/-- A header that the later state opens is opened by the earlier one with the same key. -/
theorem Reduced.decryptHeader (h : Reduced state later) {header : Header K} {opened : HeaderKey}
    (hheader : decryptHeader later event = .ok (header, opened)) :
    decryptHeader state event = .ok (header, opened) := by
  have hcurrent : ∀ encryptedHeader : T, tryCurrentKey state event.pubkey encryptedHeader =
      tryCurrentKey later event.pubkey encryptedHeader := by
    intro encryptedHeader
    unfold tryCurrentKey
    rw [h.ourCurrent, h.theirCurrent, h.theirNext]
  have hnext : ∀ encryptedHeader : T, tryNextKey state event.pubkey encryptedHeader =
      tryNextKey later event.pubkey encryptedHeader := by
    intro encryptedHeader
    unfold tryNextKey
    rw [h.ourNext, h.theirNext]
  have hskipped : ∀ (encryptedHeader : T) header,
      trySkippedKeys later event.pubkey encryptedHeader = some header →
      trySkippedKeys state event.pubkey encryptedHeader = some header := by
    intro encryptedHeader header hsome
    obtain ⟨entry, hentry, hfound⟩ := Option.bind_eq_some_iff.mp hsome
    obtain ⟨old, hold, hsame⟩ := h.headerKeys _ entry hentry
    unfold trySkippedKeys
    rw [hold, Option.bind_some, hsame]
    exact hfound
  unfold DoubleRatchet.decryptHeader at hheader ⊢
  cases hsealed : event.header with
  | none =>
      rw [hsealed] at hheader
      cases hheader
  | some encryptedHeader =>
      rw [hsealed] at hheader
      dsimp only at hheader ⊢
      rw [hcurrent, hnext]
      rw [except_bind_eq_ok] at hheader ⊢
      obtain ⟨current, hfirst, hheader⟩ := hheader
      refine ⟨current, hfirst, ?_⟩
      cases current with
      | some header' => exact hheader
      | none =>
          dsimp only at hheader ⊢
          rw [except_bind_eq_ok] at hheader ⊢
          obtain ⟨second, hsecond, hheader⟩ := hheader
          refine ⟨second, hsecond, ?_⟩
          cases second with
          | some header' => exact hheader
          | none =>
              dsimp only at hheader ⊢
              cases hthird : trySkippedKeys later event.pubkey encryptedHeader with
              | none =>
                  rw [hthird] at hheader
                  cases hheader
              | some header' =>
                  rw [hthird] at hheader
                  rw [hskipped encryptedHeader header' hthird]
                  exact hheader

/-- The ratchet takes two states with the same keys to states that decrypt alike, whatever keys
they draw. -/
theorem ratchetStep_covers (hlaw : AgreementLaw (T := T) K) (hcovers : Covers T state later)
    (hrootKey : later.rootKey = state.rootKey)
    (htheirNext : later.theirNextNostrPublicKey = state.theirNextNostrPublicKey)
    (hourNext : later.ourNextNostrKey = state.ourNextNostrKey)
    (hsecret : ValidSecret (T := T) secret) (hsecret' : ValidSecret (T := T) secret')
    {next' : SessionState K} (h : ratchetStep (T := T) later secret' = .ok next') :
    ∃ next, ratchetStep (T := T) state secret = .ok next ∧ Covers T next next' ∧
      next.skippedKeys = state.skippedKeys ∧ next'.skippedKeys = later.skippedKeys := by
  unfold ratchetStep at h ⊢
  rw [except_bind_eq_ok] at h
  obtain ⟨conversationKey1, hfirst, h⟩ := h
  dsimp only at h
  rw [getPublicKey_valid hsecret'] at h
  change (getConversationKey (T := T) _ _ >>= _) = _ at h
  rw [except_bind_eq_ok] at h
  obtain ⟨conversationKey2, hsecond, h⟩ := h
  cases h
  rw [htheirNext] at hsecond
  rw [hourNext, htheirNext] at hfirst
  obtain ⟨conversationKey3, hthird⟩ := except_eq_ok_of_isOk
    (hlaw state.theirNextNostrPublicKey hsecret' hsecret (by rw [hsecond]; rfl))
  rw [hfirst]
  change ∃ next, (getPublicKey (T := T) secret >>= _) = .ok next ∧ _
  rw [getPublicKey_valid hsecret]
  change ∃ next, (getConversationKey (T := T) _ _ >>= _) = .ok next ∧ _
  rw [hthird]
  refine ⟨_, rfl, ⟨?_, rfl, ?_, ?_, hcovers.entries, hcovers.keys⟩, rfl, rfl⟩
  · dsimp only
    rw [hrootKey]
    rfl
  · exact congrArg some hourNext
  · exact fun publicKey => hlaw publicKey hsecret' hsecret

theorem ratchetForHeader_covers (hlaw : AgreementLaw (T := T) K) (h : Reduced state later)
    (hsecret : ValidSecret (T := T) secret) (hsecret' : ValidSecret (T := T) secret')
    {header : Header K} {ready' : SessionState K}
    (hready : ratchetForHeader (T := T) later header secret' = .ok ready') :
    ∃ ready, ratchetForHeader (T := T) state header secret = .ok ready ∧ Covers T ready ready' ∧
      ∀ sender number,
        (later.skippedKey sender number = none → state.skippedKey sender number = none) →
        ready'.skippedKey sender number = none → ready.skippedKey sender number = none := by
  have hcovers : Covers T state later := h.covers
  unfold ratchetForHeader at hready ⊢
  dsimp only at hready ⊢
  rw [except_bind_eq_ok] at hready
  obtain ⟨skipped', hskipped', hready⟩ := hready
  rw [h.theirCurrent, h.theirNext] at hskipped'
  obtain ⟨skipped, hskipped, hcovers', hmissing⟩ :=
    (hcovers.learnKeys header).skipMessageKeys hskipped'
  obtain ⟨_, _, _, hframe⟩ := skipMessageKeys_frame hskipped
  obtain ⟨_, _, _, hframe'⟩ := skipMessageKeys_frame hskipped'
  obtain ⟨_, _, hstate⟩ := learnKeys_frame state header
  obtain ⟨_, _, hlater⟩ := learnKeys_frame later header
  have hrootKey : skipped'.rootKey = skipped.rootKey := by
    rw [hframe, hframe', hstate, hlater]
    exact h.rootKey
  have hourNext : skipped'.ourNextNostrKey = skipped.ourNextNostrKey := by
    rw [hframe, hframe', hstate, hlater]
    exact h.ourNext
  have htheirNext : skipped'.theirNextNostrPublicKey = skipped.theirNextNostrPublicKey := by
    rw [hframe, hframe']
    dsimp only
    rw [theirNext_learnKeys, theirNext_learnKeys]
  obtain ⟨ready, hstep, hready, hkept, hkept'⟩ :=
    ratchetStep_covers hlaw hcovers' hrootKey htheirNext hourNext hsecret hsecret' hready
  refine ⟨ready, ?_, hready, ?_⟩
  · rw [hskipped]
    exact hstep
  · intro sender number hbefore hnone
    rw [skippedKey_of_skippedKeys hkept'] at hnone
    rw [skippedKey_of_skippedKeys hkept]
    refine hmissing sender number ?_ hnone
    rw [skippedKey_learnKeys, skippedKey_learnKeys]
    exact hbefore

/-- What the later state accepts the earlier one accepts. -/
theorem Reduced.accepts (hlaw : AgreementLaw (T := T) K) (h : Reduced state later)
    (hkept : StillKept state later event) (hsecret : ValidSecret (T := T) secret)
    (hsecret' : ValidSecret (T := T) secret') {innerEvent : JsonValue}
    (haccepts : Accepts codec later event secret' innerEvent) :
    Accepts codec state event secret innerEvent := by
  have hcovers : Covers T state later := h.covers
  unfold Accepts at haccepts
  generalize hreceive : receiveEvent codec noCallbacks later event secret' = outcome at haccepts
  obtain ⟨result, next'⟩ := outcome
  obtain ⟨-, hnone⟩ | ⟨header, opened, ready', text, innerEvent', hresult, hversion,
    heventVersion, hheader', hheld, hready', hdecrypted', hparsed⟩ := receiveEvent_cases hreceive
  · exact absurd haccepts (hnone innerEvent)
  · obtain rfl : innerEvent' = innerEvent :=
      Option.some.inj (Except.ok.inj (hresult.symm.trans haccepts))
    have hheader := h.decryptHeader hheader'
    rw [h.version] at hversion
    have hmissing : opened ≠ .skipped →
        later.skippedKey event.pubkey header.number = none →
        state.skippedKey event.pubkey header.number = none := by
      intro hopened hlater
      rw [← Option.not_isSome_iff_eq_none]
      intro hsome
      have hstill := hkept header opened hheader hopened hsome
      rw [hlater] at hstill
      cases hstill
    have hstep : ∃ ready next, applyHeader (T := T) state header opened secret = .ok ready ∧
        ratchetDecrypt ready header event.content event.pubkey = .ok (text, next) := by
      cases opened with
      | current =>
          cases hready'
          obtain ⟨next, hdecrypted⟩ := (hcovers.learnKeys header).ratchetDecrypt
            (by rw [skippedKey_learnKeys, skippedKey_learnKeys]
                exact hmissing (by decide)) hdecrypted'
          exact ⟨_, next, rfl, hdecrypted⟩
      | next =>
          obtain ⟨ready, hready, hcovers', hmissing'⟩ :=
            ratchetForHeader_covers hlaw h hsecret hsecret' hready'
          obtain ⟨next, hdecrypted⟩ := hcovers'.ratchetDecrypt
            (hmissing' _ _ (hmissing (by decide))) hdecrypted'
          exact ⟨ready, next, hready, hdecrypted⟩
      | skipped =>
          cases hready'
          obtain ⟨next, hdecrypted⟩ := hcovers.ratchetDecrypt (by
            intro hlater
            have hsome := hheld rfl
            rw [hlater] at hsome
            cases hsome) hdecrypted'
          exact ⟨state, next, rfl, hdecrypted⟩
    obtain ⟨ready, next, hready, hdecrypted⟩ := hstep
    have hheldEarlier : opened = .skipped →
        (state.skippedKey event.pubkey header.number).isSome = true := by
      intro hopened
      obtain ⟨key, hkey⟩ := Option.isSome_iff_exists.mp (hheld hopened)
      rw [h.keys _ _ _ hkey]
      rfl
    rw [Accepts, receiveEvent_opened codec hversion heventVersion hheader hheldEarlier hready
      hdecrypted hparsed rfl]

/-! What becomes of a session. -/

structure SameRatchet (state later : SessionState K) : Prop where
  rootKey : later.rootKey = state.rootKey
  ourCurrent : later.ourCurrentNostrKey = state.ourCurrentNostrKey
  ourNext : later.ourNextNostrKey = state.ourNextNostrKey

/-- The receiving chain is where it was, and no key was kept in between. -/
structure Diminished (state later : SessionState K) : Prop where
  receivingChain : later.receivingChainKey = state.receivingChainKey
  receivingNumber : later.receivingChainMessageNumber = state.receivingChainMessageNumber
  headerKeys : ∀ sender entry, later.skippedKeys.get? sender = some entry →
    ∃ old, state.skippedKeys.get? sender = some old ∧ old.headerKeys = entry.headerKeys
  keys : ∀ sender number key, later.skippedKey sender number = some key →
    state.skippedKey sender number = some key

/-- Since it was in the earlier state the session has ratcheted, or moved its receiving chain, or
used keys that it kept. -/
structure Since (state later : SessionState K) : Prop where
  version : later.metadataPrivacyVersion = state.metadataPrivacyVersion
  progress : later.ourNextNostrKey.publicKey ≠ state.ourNextNostrKey.publicKey ∨
    SameRatchet state later ∧
      (state.receivingChainMessageNumber < later.receivingChainMessageNumber ∨
        Diminished state later)

section

omit [Primitives K T]

theorem Since.refl (state : SessionState K) : Since state state where
  version := rfl
  progress := .inr ⟨⟨rfl, rfl, rfl⟩,
    .inr ⟨rfl, rfl, fun _ entry hentry => ⟨entry, hentry, rfl⟩, fun _ _ _ hkey => hkey⟩⟩

/-- Where the memo finds the same values, keys were used and nothing else happened. -/
theorem Since.reduced (h : Since state later) (hsame : later.receiveState = state.receiveState) :
    Reduced state later := by
  obtain ⟨hversion, hprogress⟩ := h
  obtain ⟨hcurrent, hnext, htheirCurrent, htheirNext, hnumber⟩ := ReceiveState.mk.inj hsame
  obtain hratcheted | ⟨hratchet, hmoved | hdiminished⟩ := hprogress
  · exact absurd hnext hratcheted
  · change later.receivingChainMessageNumber = state.receivingChainMessageNumber at hnumber
    omega
  · exact ⟨hversion, hratchet.rootKey, htheirCurrent, htheirNext, hratchet.ourCurrent,
      hratchet.ourNext, hdiminished.receivingChain, hdiminished.receivingNumber,
      hdiminished.headerKeys, hdiminished.keys⟩

/-- Nothing that receiving depends on has changed. -/
theorem Since.of_eq (h : Since state later)
    (hversion : next.metadataPrivacyVersion = later.metadataPrivacyVersion)
    (hratchet : SameRatchet later next)
    (hchain : next.receivingChainKey = later.receivingChainKey)
    (hnumber : next.receivingChainMessageNumber = later.receivingChainMessageNumber)
    (hskipped : next.skippedKeys = later.skippedKeys) : Since state next := by
  obtain ⟨hversion', hprogress⟩ := h
  refine ⟨hversion.trans hversion', ?_⟩
  obtain hratcheted | ⟨hratchet', hmoved | hdiminished⟩ := hprogress
  · rw [hratchet.ourNext]
    exact .inl hratcheted
  · refine .inr ⟨⟨hratchet.rootKey.trans hratchet'.rootKey,
      hratchet.ourCurrent.trans hratchet'.ourCurrent, hratchet.ourNext.trans hratchet'.ourNext⟩,
      .inl ?_⟩
    rw [hnumber]
    exact hmoved
  · refine .inr ⟨⟨hratchet.rootKey.trans hratchet'.rootKey,
      hratchet.ourCurrent.trans hratchet'.ourCurrent, hratchet.ourNext.trans hratchet'.ourNext⟩,
      .inr ⟨hchain.trans hdiminished.receivingChain, hnumber.trans hdiminished.receivingNumber,
        ?_, ?_⟩⟩
    · rw [hskipped]
      exact hdiminished.headerKeys
    · intro sender number key hkey
      rw [skippedKey_of_skippedKeys hskipped] at hkey
      exact hdiminished.keys sender number key hkey

end

theorem Since.send (h : Since state later) (codec : RumorCodec T) (event : PartialEvent)
    (outerTags : List (List String)) (now : Nat) (bodyNonce headerNonce : K) :
    Since state (sendEvent codec later event outerTags now bodyNonce headerNonce).2 := by
  obtain ⟨-, message, hsend⟩ | ⟨ourCurrent, rumor, sendingChainKey, -, -, hsend⟩ :=
    sendEvent_cases codec later event outerTags now bodyNonce headerNonce
  · rw [hsend]
    exact h
  · rw [hsend]
    exact h.of_eq rfl ⟨rfl, rfl, rfl⟩ rfl rfl rfl

theorem Since.ratchetDecrypt (h : Since state later) {header : Header K} {ciphertext text : T}
    {nostrSender : DevicePubkey K}
    (hdecrypted : ratchetDecrypt later header ciphertext nostrSender = .ok (text, next)) :
    Since state next := by
  obtain ⟨hversion, hprogress⟩ := h
  obtain ⟨messageKey, -, -, hkept⟩ | ⟨skipped, receivingChainKey, -, hskipped, -, -, rfl⟩ :=
    ratchetDecrypt_cases hdecrypted
  · obtain ⟨-, ⟨skippedKeys, hframe⟩, hkeys, hheaderKeys⟩ := trySkippedMessageKeys_eq_some hkept
    refine ⟨by rw [hframe]; exact hversion, ?_⟩
    obtain hratcheted | ⟨hratchet, hmoved | hdiminished⟩ := hprogress
    · rw [hframe]
      exact .inl hratcheted
    · rw [hframe]
      exact .inr ⟨⟨hratchet.rootKey, hratchet.ourCurrent, hratchet.ourNext⟩, .inl hmoved⟩
    · refine .inr ⟨?_, .inr ⟨?_, ?_, ?_, ?_⟩⟩
      · rw [hframe]
        exact ⟨hratchet.rootKey, hratchet.ourCurrent, hratchet.ourNext⟩
      · rw [hframe]
        exact hdiminished.receivingChain
      · rw [hframe]
        exact hdiminished.receivingNumber
      · intro sender entry hentry
        obtain ⟨old, hold, hsame⟩ := hheaderKeys sender entry hentry
        obtain ⟨first, hfirst, hsame'⟩ := hdiminished.headerKeys sender old hold
        exact ⟨first, hfirst, hsame'.trans hsame⟩
      · intro sender number key hkey
        rw [hkeys] at hkey
        split at hkey
        · cases hkey
        · exact hdiminished.keys sender number key hkey
  · obtain ⟨_, _, _, hframe⟩ := skipMessageKeys_frame hskipped
    have hle : later.receivingChainMessageNumber ≤ skipped.receivingChainMessageNumber := by
      obtain ⟨-, rfl⟩ | ⟨_, _, hlt, -, rfl, -⟩ := skipMessageKeys_eq_ok hskipped
      · exact le_refl _
      · exact hlt.le
    refine ⟨by rw [hframe]; exact hversion, ?_⟩
    obtain hratcheted | ⟨hratchet, hmoved⟩ := hprogress
    · rw [hframe]
      exact .inl hratcheted
    · have hstart : state.receivingChainMessageNumber ≤ later.receivingChainMessageNumber := by
        obtain hlt | hdiminished := hmoved
        · exact hlt.le
        · exact hdiminished.receivingNumber.ge
      refine .inr ⟨?_, .inl ?_⟩
      · rw [hframe]
        exact ⟨hratchet.rootKey, hratchet.ourCurrent, hratchet.ourNext⟩
      · dsimp only
        omega

/-- A ratchet makes our next key the one that was drawn. -/
theorem ratchetForHeader_ourNext {header : Header K} (hsecret : ValidSecret (T := T) secret)
    (h : ratchetForHeader (T := T) later header secret = .ok ready) :
    ready.ourNextNostrKey.publicKey = ⟨Primitives.publicKey (T := T) secret⟩ ∧
      ready.metadataPrivacyVersion = later.metadataPrivacyVersion := by
  unfold ratchetForHeader at h
  dsimp only at h
  rw [except_bind_eq_ok] at h
  obtain ⟨skipped, hskipped, h⟩ := h
  unfold ratchetStep at h
  rw [except_bind_eq_ok] at h
  obtain ⟨conversationKey1, -, h⟩ := h
  dsimp only at h
  rw [getPublicKey_valid hsecret] at h
  change (getConversationKey (T := T) _ _ >>= _) = _ at h
  rw [except_bind_eq_ok] at h
  obtain ⟨conversationKey2, -, h⟩ := h
  cases h
  obtain ⟨_, _, _, hframe⟩ := skipMessageKeys_frame hskipped
  obtain ⟨_, _, hlearnt⟩ := learnKeys_frame later header
  refine ⟨rfl, ?_⟩
  rw [hframe, hlearnt]

/-- A key drawn for a ratchet is valid and new. -/
def FreshKey (T : Type) [Primitives K T] (state : SessionState K) (secret : K) : Prop :=
  ValidSecret (T := T) secret ∧
    (⟨Primitives.publicKey (T := T) secret⟩ : DevicePubkey K) ≠ state.ourNextNostrKey.publicKey

theorem Since.receive (h : Since state later) (hfresh : FreshKey T state secret)
    (codec : RumorCodec T) (callbacks : JsonValue → Except String Unit)
    (event : MessageEvent K T) :
    Since state (receiveEvent codec callbacks later event secret).2 := by
  generalize hreceive : receiveEvent codec callbacks later event secret = outcome
  obtain ⟨result, next⟩ := outcome
  obtain ⟨rfl, -⟩ | ⟨header, opened, ready, text, innerEvent, -, -, -, -, -, hready, hdecrypted,
    -⟩ := receiveEvent_cases hreceive
  · exact h
  · refine Since.ratchetDecrypt ?_ hdecrypted
    cases opened with
    | current =>
        cases hready
        obtain ⟨_, _, hlearnt⟩ := learnKeys_frame later header
        rw [hlearnt]
        exact h.of_eq rfl ⟨rfl, rfl, rfl⟩ rfl rfl rfl
    | next =>
        obtain ⟨hnext, hversion⟩ := ratchetForHeader_ourNext hfresh.1 hready
        refine ⟨hversion.trans h.version, .inl ?_⟩
        rw [hnext]
        exact hfresh.2
    | skipped =>
        cases hready
        exact h

inductive SessionAction (K T : Type) where
  | send (event : PartialEvent) (outerTags : List (List String)) (now : Nat)
      (bodyNonce headerNonce : K)
  | receive (event : MessageEvent K T) (ourNextSecretKey : K)

def SessionState.step (codec : RumorCodec T) (state : SessionState K) :
    SessionAction K T → SessionState K
  | .send event outerTags now bodyNonce headerNonce =>
      (sendEvent codec state event outerTags now bodyNonce headerNonce).2
  | .receive event ourNextSecretKey =>
      (receiveEvent codec noCallbacks state event ourNextSecretKey).2

def SessionState.run (codec : RumorCodec T) (state : SessionState K)
    (actions : List (SessionAction K T)) : SessionState K :=
  actions.foldl (SessionState.step codec) state

/-- The keys that the receives of a run draw are valid and new. -/
def FreshKeys (state : SessionState K) (actions : List (SessionAction K T)) : Prop :=
  ∀ event secret, SessionAction.receive event secret ∈ actions → FreshKey T state secret

theorem Since.run (h : Since state later) (codec : RumorCodec T)
    {actions : List (SessionAction K T)} (hfresh : FreshKeys state actions) :
    Since state (later.run codec actions) := by
  induction actions generalizing later with
  | nil => exact h
  | cons action rest ih =>
      refine ih ?_ (fun event secret hmem => hfresh event secret (List.mem_cons_of_mem _ hmem))
      cases action with
      | send event outerTags now bodyNonce headerNonce =>
          exact h.send codec event outerTags now bodyNonce headerNonce
      | receive event ourNextSecretKey =>
          exact h.receive (hfresh event _ List.mem_cons_self) codec noCallbacks event

end

/-! The device. -/

/-- A device with its memo of failed receives, by event object and session. `refusedIn` remembers
the state that refused, and `delivered` the rumors handed on. -/
structure ReceiveDevice (K : Type) [LinearOrder K] where
  device : SendDevice K
  failedReceiveAttempts : Nat → String → Option (ReceiveState K)
  refusedIn : Nat → String → Option (SessionState K)
  delivered : List (Nat × JsonValue)

/-- `arrange` stands for whatever else moves sessions into, within and out of the lists. -/
inductive DeviceAction (K : Type) where
  | receive (object : Nat) (isDeviceAuthorized : Bool) (secretKeys : String → K)
  | send (rumor : PartialEvent) (now : String → Nat) (nonces : String → K × K)
  | arrange (activeSession : Option String) (inactiveSessions : List String)
      (distinct : (activeSession.toList ++ inactiveSessions).Nodup)

section

variable {K T : Type} [LinearOrder K] [Primitives K T]

/-- The promotion of `handleSessionRumor`, when the device is authorized. -/
def SendDevice.handleSessionRumor (device : SendDevice K) (ownerPubkey : String)
    (isDeviceAuthorized : Bool) (session : String) : Option (SendDevice K) :=
  let isKnownInstalledSession :=
    device.activeSession = some session || device.inactiveSessions.contains session
  if ownerPubkey = device.deviceId || isDeviceAuthorized || isKnownInstalledSession then
    some (device.promoteToActive session)
  else none

namespace ReceiveDevice

def new (device : SendDevice K) : ReceiveDevice K where
  device := device
  failedReceiveAttempts _ _ := none
  refusedIn _ _ := none
  delivered := []

def setState (x : ReceiveDevice K) (name : String) (state : SessionState K) : ReceiveDevice K :=
  { x with device := x.device.setState name state }

def noteFailure (x : ReceiveDevice K) (object : Nat) (name : String) (state : SessionState K) :
    ReceiveDevice K :=
  { x with
    failedReceiveAttempts := fun object' name' =>
      if object' = object ∧ name' = name then some state.receiveState
      else x.failedReceiveAttempts object' name'
    refusedIn := fun object' name' =>
      if object' = object ∧ name' = name then some state else x.refusedIn object' name' }

variable (codec : RumorCodec T) (ownerPubkey : String) (events : Nat → MessageEvent K T)

/-- One session is given the event; the flag says whether its rumor was handled. -/
def tryReceive (object : Nat) (isDeviceAuthorized : Bool) (secretKeys : String → K)
    (name : String) (x : ReceiveDevice K) : ReceiveDevice K × Bool :=
  match receiveEvent codec noCallbacks (x.device.states name) (events object)
      (secretKeys name) with
  | (.ok (some rumor), next) =>
      match (x.device.setState name next).handleSessionRumor ownerPubkey isDeviceAuthorized
          name with
      | some device =>
          ({ x with device := device, delivered := x.delivered ++ [(object, rumor)] }, true)
      | none => (x.setState name next, false)
  | (_, next) => ((x.setState name next).noteFailure object name (x.device.states name), false)

/-- The loop of `processReceivedEvent`; with `memo` a session that refused the event in the same
receive state is passed over. -/
def processSessions (memo : Bool) (object : Nat) (isDeviceAuthorized : Bool)
    (secretKeys : String → K) : List String → ReceiveDevice K → ReceiveDevice K × Bool
  | [], x => (x, false)
  | name :: rest, x =>
      if memo && x.failedReceiveAttempts object name =
          some (x.device.states name).receiveState then
        processSessions memo object isDeviceAuthorized secretKeys rest x
      else
        match tryReceive codec ownerPubkey events object isDeviceAuthorized secretKeys name x with
        | (next, true) => (next, true)
        | (next, false) =>
            processSessions memo object isDeviceAuthorized secretKeys rest next

def sessions (x : ReceiveDevice K) : List String :=
  x.device.activeSession.toList ++ x.device.inactiveSessions

def processReceivedEvent (memo : Bool) (object : Nat) (isDeviceAuthorized : Bool)
    (secretKeys : String → K) (x : ReceiveDevice K) : ReceiveDevice K × Bool :=
  processSessions codec ownerPubkey events memo object isDeviceAuthorized secretKeys x.sessions x

def step (memo : Bool) (x : ReceiveDevice K) : DeviceAction K → ReceiveDevice K
  | .receive object isDeviceAuthorized secretKeys =>
      (x.processReceivedEvent codec ownerPubkey events memo object isDeviceAuthorized
        secretKeys).1
  | .send rumor now nonces =>
      { x with device := (x.device.sendEventWithBestSession codec rumor now nonces).1 }
  | .arrange activeSession inactiveSessions distinct =>
      { x with device := { x.device with
          activeSession := activeSession
          inactiveSessions := inactiveSessions
          distinct := distinct } }

def run (memo : Bool) (x : ReceiveDevice K) (actions : List (DeviceAction K)) :
    ReceiveDevice K :=
  actions.foldl (step codec ownerPubkey events memo) x

/-- A condition on every step of the run with the memo. -/
def Throughout (condition : ReceiveDevice K → DeviceAction K → Prop) (x : ReceiveDevice K) :
    List (DeviceAction K) → Prop
  | [] => True
  | action :: rest => condition x action ∧
      Throughout condition (x.step codec ownerPubkey events true action) rest

/-- The keys a receive draws are valid, and none is the next key of a state that refused an
event. -/
def DrawsFresh (T : Type) [Primitives K T] (x : ReceiveDevice K) : DeviceAction K → Prop
  | .receive _ _ secretKeys => ∀ name, ValidSecret (T := T) (secretKeys name) ∧
      ∀ object state, x.refusedIn object name = some state → FreshKey T state (secretKeys name)
  | _ => True

/-- Where the memo passes a session over, the key of the message that the event named when it was
refused is still kept. -/
def NamedKeysKept (x : ReceiveDevice K) : DeviceAction K → Prop
  | .receive object _ _ => ∀ name ∈ x.sessions, ∀ state, x.refusedIn object name = some state →
      state.receiveState = (x.device.states name).receiveState →
      StillKept state (x.device.states name) (events object)
  | _ => True

/-- Every entry of the memo is a refusal, and the session has gone on from it. -/
def Sound (x : ReceiveDevice K) : Prop :=
  ∀ object name receiveState, x.failedReceiveAttempts object name = some receiveState →
    ∃ state secret, x.refusedIn object name = some state ∧ state.receiveState = receiveState ∧
      ValidSecret (T := T) secret ∧ Refuses codec state (events object) secret ∧
      Since state (x.device.states name)

/-- Two devices that differ in their memo only. -/
structure Alike (x y : ReceiveDevice K) : Prop where
  device : x.device = y.device
  delivered : x.delivered = y.delivered

variable (object : Nat) (isDeviceAuthorized : Bool) (secretKeys : String → K) (name : String)
  {x y : ReceiveDevice K}

/-- What one session makes of the event. -/
theorem tryReceive_cases (x : ReceiveDevice K) :
    (∃ rumor next device,
      receiveEvent codec noCallbacks (x.device.states name) (events object) (secretKeys name) =
        (.ok (some rumor), next) ∧ device.states = (x.device.setState name next).states ∧
      tryReceive codec ownerPubkey events object isDeviceAuthorized secretKeys name x =
        ({ x with device := device, delivered := x.delivered ++ [(object, rumor)] }, true)) ∨
    (∃ rumor next,
      receiveEvent codec noCallbacks (x.device.states name) (events object) (secretKeys name) =
        (.ok (some rumor), next) ∧
      tryReceive codec ownerPubkey events object isDeviceAuthorized secretKeys name x =
        (x.setState name next, false)) ∨
    Refuses codec (x.device.states name) (events object) (secretKeys name) ∧
      tryReceive codec ownerPubkey events object isDeviceAuthorized secretKeys name x =
        (x.noteFailure object name (x.device.states name), false) := by
  unfold tryReceive Refuses Accepts
  generalize hreceive : receiveEvent codec noCallbacks (x.device.states name) (events object)
    (secretKeys name) = outcome
  obtain ⟨result, next⟩ := outcome
  have hrefused : (∀ innerEvent, result ≠ .ok (some innerEvent)) →
      x.setState name next = x := by
    intro hnone
    obtain ⟨rfl, -⟩ | ⟨_, _, _, _, innerEvent, hresult, -⟩ := receiveEvent_cases hreceive
    · unfold setState
      rw [SendDevice.setState_self]
    · exact absurd hresult (hnone innerEvent)
  rcases result with message | innerEvent
  · refine .inr (.inr ⟨(fun _ heq => by cases heq), ?_⟩)
    dsimp only
    rw [hrefused (fun _ heq => by cases heq)]
  · cases innerEvent with
    | none =>
        refine .inr (.inr ⟨(fun _ heq => by cases heq), ?_⟩)
        dsimp only
        rw [hrefused (fun _ heq => by cases heq)]
    | some rumor =>
        dsimp only
        cases hhandled : (x.device.setState name next).handleSessionRumor ownerPubkey
            isDeviceAuthorized name with
        | none => exact .inr (.inl ⟨rumor, next, rfl, rfl⟩)
        | some device =>
            refine .inl ⟨rumor, next, device, rfl, ?_, rfl⟩
            unfold SendDevice.handleSessionRumor at hhandled
            dsimp only at hhandled
            split at hhandled
            · cases hhandled
              exact SendDevice.states_promoteToActive _ name
            · cases hhandled

/-- The memo plays no part in a try. -/
theorem tryReceive_alike (h : Alike x y) :
    Alike (tryReceive codec ownerPubkey events object isDeviceAuthorized secretKeys name x).1
        (tryReceive codec ownerPubkey events object isDeviceAuthorized secretKeys name y).1 ∧
      (tryReceive codec ownerPubkey events object isDeviceAuthorized secretKeys name x).2 =
        (tryReceive codec ownerPubkey events object isDeviceAuthorized secretKeys name y).2 := by
  unfold tryReceive setState noteFailure
  rw [h.device, h.delivered]
  split
  · split
    · exact ⟨⟨rfl, rfl⟩, rfl⟩
    · exact ⟨⟨rfl, rfl⟩, rfl⟩
  · exact ⟨⟨rfl, rfl⟩, rfl⟩

/-- A try touches nothing of the other sessions. -/
theorem tryReceive_other (x : ReceiveDevice K) {other : String} (hother : other ≠ name) :
    (tryReceive codec ownerPubkey events object isDeviceAuthorized secretKeys name x).1.device.states
        other = x.device.states other ∧
      ∀ object', (tryReceive codec ownerPubkey events object isDeviceAuthorized secretKeys name
        x).1.refusedIn object' other = x.refusedIn object' other := by
  obtain ⟨rumor, next, device, -, hstates, htry⟩ | ⟨rumor, next, -, htry⟩ | ⟨-, htry⟩ :=
    tryReceive_cases codec ownerPubkey events object isDeviceAuthorized secretKeys name x
  · rw [htry]
    refine ⟨?_, fun _ => rfl⟩
    dsimp only
    rw [hstates, x.device.states_setState_of_ne hother]
  · rw [htry]
    exact ⟨x.device.states_setState_of_ne hother next, fun _ => rfl⟩
  · rw [htry]
    refine ⟨rfl, fun object' => ?_⟩
    unfold noteFailure
    dsimp only
    rw [if_neg (fun hall => hother hall.2)]

theorem Sound.tryReceive (h : Sound codec events x)
    (hvalid : ValidSecret (T := T) (secretKeys name))
    (hfresh : ∀ object state, x.refusedIn object name = some state →
      FreshKey T state (secretKeys name)) :
    Sound codec events
      (tryReceive codec ownerPubkey events object isDeviceAuthorized secretKeys name x).1 := by
  have hmoved : ∀ {object' name' receiveState next result},
      receiveEvent codec noCallbacks (x.device.states name) (events object) (secretKeys name) =
        (result, next) →
      x.failedReceiveAttempts object' name' = some receiveState →
      ∃ state secret, x.refusedIn object' name' = some state ∧
        state.receiveState = receiveState ∧ ValidSecret (T := T) secret ∧
        Refuses codec state (events object') secret ∧
        Since state ((x.device.setState name next).states name') := by
    intro object' name' receiveState next result hreceive hfailed
    obtain ⟨state, secret, hrefused, hsame, hsecret, hrefuses, hsince⟩ :=
      h object' name' receiveState hfailed
    refine ⟨state, secret, hrefused, hsame, hsecret, hrefuses, ?_⟩
    by_cases hname : name' = name
    · subst hname
      rw [SendDevice.states_setState_self]
      have hnext := hsince.receive (hfresh object' state hrefused) codec noCallbacks (events object)
      rw [hreceive] at hnext
      exact hnext
    · rw [x.device.states_setState_of_ne hname]
      exact hsince
  obtain ⟨rumor, next, device, hreceive, hstates, htry⟩ | ⟨rumor, next, hreceive, htry⟩ |
    ⟨hrefuses, htry⟩ :=
    tryReceive_cases codec ownerPubkey events object isDeviceAuthorized secretKeys name x
  · rw [htry]
    intro object' name' receiveState hfailed
    dsimp only
    rw [hstates]
    exact hmoved hreceive hfailed
  · rw [htry]
    intro object' name' receiveState hfailed
    exact hmoved hreceive hfailed
  · rw [htry]
    intro object' name' receiveState hfailed
    unfold noteFailure at hfailed ⊢
    dsimp only at hfailed ⊢
    split at hfailed
    · rename_i hnoted
      obtain ⟨rfl, rfl⟩ := hnoted
      rw [if_pos ⟨rfl, rfl⟩]
      exact ⟨_, _, rfl, Option.some.inj hfailed, hvalid, hrefuses, Since.refl _⟩
    · rename_i hother
      rw [if_neg hother]
      exact h object' name' receiveState hfailed

/-- A session that the memo passes over refuses the event. -/
theorem Sound.refuses (hlaw : AgreementLaw (T := T) K) (h : Sound codec events x)
    (hvalid : ValidSecret (T := T) (secretKeys name))
    (hkept : ∀ state, x.refusedIn object name = some state →
      state.receiveState = (x.device.states name).receiveState →
      StillKept state (x.device.states name) (events object))
    (hfailed : x.failedReceiveAttempts object name = some (x.device.states name).receiveState) :
    Refuses codec (x.device.states name) (events object) (secretKeys name) := by
  obtain ⟨state, secret, hrefused, hsame, hsecret, hrefuses, hsince⟩ := h object name _ hfailed
  intro innerEvent haccepts
  exact hrefuses innerEvent ((hsince.reduced hsame.symm).accepts hlaw (hkept state hrefused hsame)
    hsecret hvalid haccepts)

theorem processSessions_alike (hlaw : AgreementLaw (T := T) K) {names : List String}
    (hdistinct : names.Nodup) (hsound : Sound codec events x) (halike : Alike x y)
    (hfresh : ∀ name ∈ names, ValidSecret (T := T) (secretKeys name) ∧
      ∀ object state, x.refusedIn object name = some state → FreshKey T state (secretKeys name))
    (hkept : ∀ name ∈ names, ∀ state, x.refusedIn object name = some state →
      state.receiveState = (x.device.states name).receiveState →
      StillKept state (x.device.states name) (events object)) :
    Sound codec events (processSessions codec ownerPubkey events true object isDeviceAuthorized
        secretKeys names x).1 ∧
      Alike (processSessions codec ownerPubkey events true object isDeviceAuthorized secretKeys
          names x).1
        (processSessions codec ownerPubkey events false object isDeviceAuthorized secretKeys
          names y).1 := by
  induction names generalizing x y with
  | nil => exact ⟨hsound, halike⟩
  | cons name rest ih =>
      obtain ⟨hnew, hrest⟩ := List.nodup_cons.mp hdistinct
      obtain ⟨hvalid, hdraws⟩ := hfresh name List.mem_cons_self
      have hfreshRest := fun other hmem => hfresh other (List.mem_cons_of_mem name hmem)
      have hkeptRest := fun other hmem => hkept other (List.mem_cons_of_mem name hmem)
      rw [processSessions, processSessions, Bool.false_and, Bool.true_and, if_neg Bool.false_ne_true]
      by_cases hfailed : x.failedReceiveAttempts object name =
          some (x.device.states name).receiveState
      · rw [if_pos (decide_eq_true hfailed)]
        have hrefuses := hsound.refuses codec events object secretKeys name hlaw hvalid
          (hkept name List.mem_cons_self) hfailed
        rw [halike.device] at hrefuses
        have hretry : tryReceive codec ownerPubkey events object isDeviceAuthorized secretKeys
            name y = (y.noteFailure object name (y.device.states name), false) := by
          obtain ⟨rumor, next, device, hreceive, -⟩ | ⟨rumor, next, hreceive, -⟩ | ⟨-, htry⟩ :=
            tryReceive_cases codec ownerPubkey events object isDeviceAuthorized secretKeys name y
          · exact absurd (congrArg Prod.fst hreceive) (hrefuses rumor)
          · exact absurd (congrArg Prod.fst hreceive) (hrefuses rumor)
          · exact htry
        rw [hretry]
        exact ih hrest hsound ⟨halike.device, halike.delivered⟩ hfreshRest hkeptRest
      · rw [if_neg (fun hall => hfailed (of_decide_eq_true hall))]
        obtain ⟨halike', hflag⟩ := tryReceive_alike codec ownerPubkey events object
          isDeviceAuthorized secretKeys name halike
        have hsound' := hsound.tryReceive codec ownerPubkey events object isDeviceAuthorized
          secretKeys name hvalid hdraws
        have hother : ∀ other ∈ rest, _ := fun other hmem =>
          tryReceive_other codec ownerPubkey events object isDeviceAuthorized secretKeys name x
            (fun heq : other = name => hnew (heq ▸ hmem))
        generalize tryReceive codec ownerPubkey events object isDeviceAuthorized secretKeys name x =
          first at halike' hflag hsound' hother
        generalize tryReceive codec ownerPubkey events object isDeviceAuthorized secretKeys name y =
          second at halike' hflag
        obtain ⟨next, handled⟩ := first
        obtain ⟨next', handled'⟩ := second
        cases hflag
        cases handled with
        | true => exact ⟨hsound', halike'⟩
        | false =>
            refine ih hrest hsound' halike' ?_ ?_
            · intro other hmem
              refine ⟨(hfreshRest other hmem).1, fun object' state hrefused => ?_⟩
              rw [(hother other hmem).2] at hrefused
              exact (hfreshRest other hmem).2 object' state hrefused
            · intro other hmem state hrefused hsame
              rw [(hother other hmem).2] at hrefused
              rw [(hother other hmem).1] at hsame ⊢
              exact hkeptRest other hmem state hrefused hsame

/-- A session is sent on, or left alone. -/
theorem since_trySessions {state : SessionState K} {name : String} (rumor : PartialEvent)
    (now : String → Nat) (nonces : String → K × K) (candidates : List String)
    (device : SendDevice K) (h : Since state (device.states name)) :
    Since state
      ((SendDevice.trySessions codec rumor now nonces candidates device).1.states name) := by
  induction candidates generalizing device with
  | nil => exact h
  | cons first rest ih =>
      rw [SendDevice.trySessions]
      have hsent := fun hname : name = first => (hname ▸ h : Since state (device.states first)).send
        codec rumor [["p", device.deviceId]] (now first) (nonces first).1 (nonces first).2
      generalize sendEvent codec (device.states first) rumor [["p", device.deviceId]] (now first)
        (nonces first).1 (nonces first).2 = outcome at hsent ⊢
      obtain ⟨result, next⟩ := outcome
      have hnext : Since state ((device.setState first next).states name) := by
        by_cases hname : name = first
        · rw [hname, SendDevice.states_setState_self]
          exact hsent hname
        · rw [device.states_setState_of_ne hname]
          exact h
      dsimp only
      cases result with
      | error message => exact ih _ hnext
      | ok sent =>
          dsimp only
          split
          · exact hnext
          · rw [SendDevice.states_promoteToActive]
            exact hnext

theorem step_alike (hlaw : AgreementLaw (T := T) K) {action : DeviceAction K}
    (hsound : Sound codec events x) (halike : Alike x y) (hfresh : DrawsFresh T x action)
    (hkept : NamedKeysKept events x action) :
    Sound codec events (x.step codec ownerPubkey events true action) ∧
      Alike (x.step codec ownerPubkey events true action)
        (y.step codec ownerPubkey events false action) := by
  cases action with
  | receive object isDeviceAuthorized secretKeys =>
      have hsessions : y.sessions = x.sessions := by
        unfold sessions
        rw [halike.device]
      unfold step processReceivedEvent
      dsimp only
      rw [hsessions]
      exact processSessions_alike codec ownerPubkey events object isDeviceAuthorized secretKeys hlaw
        x.device.distinct hsound halike (fun name _ => hfresh name) hkept
  | send rumor now nonces =>
      refine ⟨?_, ⟨?_, halike.delivered⟩⟩
      · intro object name receiveState hfailed
        obtain ⟨state, secret, hrefused, hsame, hsecret, hrefuses, hsince⟩ :=
          hsound object name receiveState hfailed
        exact ⟨state, secret, hrefused, hsame, hsecret, hrefuses,
          since_trySessions codec rumor now nonces _ x.device hsince⟩
      · unfold step
        rw [halike.device]
  | arrange activeSession inactiveSessions distinct =>
      refine ⟨hsound, ⟨?_, halike.delivered⟩⟩
      unfold step
      dsimp only
      rw [halike.device]

theorem run_alike (hlaw : AgreementLaw (T := T) K) {actions : List (DeviceAction K)}
    (hsound : Sound codec events x) (halike : Alike x y)
    (hfresh : Throughout codec ownerPubkey events (DrawsFresh T) x actions)
    (hkept : Throughout codec ownerPubkey events (NamedKeysKept events) x actions) :
    Alike (x.run codec ownerPubkey events true actions)
      (y.run codec ownerPubkey events false actions) := by
  induction actions generalizing x y with
  | nil => exact halike
  | cons action rest ih =>
      obtain ⟨hfirst, hfreshRest⟩ := hfresh
      obtain ⟨hfirst', hkeptRest⟩ := hkept
      obtain ⟨hsound', halike'⟩ := step_alike codec ownerPubkey events hlaw hsound halike hfirst
        hfirst'
      exact ih hsound' halike' hfreshRest hkeptRest

end ReceiveDevice

end

/-! A message with the header of one and the body of another. -/

namespace MixedMessage

open Conversation Conversation.SymbolicStart

attribute [local instance] Symbolic.primitives

theorem agreementLaw : AgreementLaw (T := TextTerm) KeyTerm := by
  intro secret secret' publicKey _ _ hok
  obtain ⟨bytes⟩ := publicKey
  cases bytes with
  | point base => rfl
  | _ => cases hok

/-- Three greetings of the initiator. -/
def sent : List (MessageEvent KeyTerm TextTerm) :=
  (start.run (codec 7) (List.replicate 3 (sendHello .initiator 7))).sent.map SentEvent.event

theorem length_sent : sent.length = 3 := by decide +kernel

def first : MessageEvent KeyTerm TextTerm := sent.get ⟨0, by rw [length_sent]; decide⟩

def second : MessageEvent KeyTerm TextTerm := sent.get ⟨1, by rw [length_sent]; decide⟩

def third : MessageEvent KeyTerm TextTerm := sent.get ⟨2, by rw [length_sent]; decide⟩

def mixed : MessageEvent KeyTerm TextTerm := { first with content := third.content }

/-- Whether an inner event was returned. -/
def returned : Except String (Option JsonValue) → Bool
  | .ok (some _) => true
  | _ => false

theorem refuses_iff {state : SessionState KeyTerm} {event : MessageEvent KeyTerm TextTerm}
    {secret : KeyTerm} : Refuses (codec 7) state event secret ↔
      returned (receiveEvent (codec 7) noCallbacks state event secret).1 = false := by
  unfold Refuses Accepts
  generalize (receiveEvent (codec 7) noCallbacks state event secret).1 = result
  rcases result with message | _ | innerEvent
  · simp [returned]
  · simp [returned]
  · simp [returned]

/-- The second greeting has arrived, and the key of the first is kept. -/
def waiting : SessionState KeyTerm :=
  responder.run (codec 7) [.receive second (.secret 3)]

def device : SendDevice KeyTerm where
  deviceId := "device"
  activeSession := some "session"
  inactiveSessions := []
  distinct := by decide
  states _ := responder

def events : Nat → MessageEvent KeyTerm TextTerm
  | 0 => first
  | 1 => second
  | _ => mixed

def receiveWith (object secret : Nat) : DeviceAction KeyTerm :=
  .receive object true (fun _ => .secret secret)

end MixedMessage

end NostrDoubleRatchet.TypeScript.DoubleRatchet
