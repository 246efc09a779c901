import NostrDoubleRatchet.Lib.KeyChain
import NostrDoubleRatchet.Primitives

/-!
The group sender-key chain of `sender_key.rs`: positioned encryption and
decryption with retained keys for skipped messages.
-/

namespace NostrDoubleRatchet

def SENDER_KEY_MAX_SKIP : Nat := 10000

def SENDER_KEY_MAX_STORED_SKIPPED_KEYS : Nat := 2000

structure SenderKeyState (K : Type) where
  keyId : Nat
  chainKey : K
  iteration : Nat
  skippedMessageKeys : SortedMap Nat K
  deriving DecidableEq

structure SenderKeyMessageContent (T : Type) where
  keyId : Nat
  messageNumber : Nat
  ciphertext : T

structure SenderKeyEncryptPlan (K T : Type) where
  nextState : SenderKeyState K
  keyId : Nat
  messageNumber : Nat
  ciphertext : T
  plaintext : T

structure SenderKeyDecryptPlan (K T : Type) where
  nextState : SenderKeyState K
  plaintext : T
  deriving DecidableEq

structure SenderKeyBlindDecryptPlan (K T : Type) where
  nextState : SenderKeyState K
  keyId : Nat
  messageNumber : Nat
  plaintext : T
  deriving DecidableEq

section

variable {K T : Type} [Primitives K T]

/-- `derive_message_key`: one HKDF extraction with the fixed salt, expanded to
the next chain key and the message key. -/
def deriveMessageKey (chainKey : K) : K × K :=
  kdf2 chainKey (.label "ndr-sender-key-v1")

def decryptWithMessageKey (messageKey : K) (ciphertext : T) : Except Error T :=
  (Primitives.decryptToBytes messageKey ciphertext).mapError Error.nip44

def pruneSkipped (map : SortedMap Nat K) : SortedMap Nat K :=
  map.pruneTo SENDER_KEY_MAX_STORED_SKIPPED_KEYS

namespace SenderKeyState

def new (keyId : Nat) (chainKey : K) (iteration : Nat) : SenderKeyState K :=
  ⟨keyId, chainKey, iteration, SortedMap.empty⟩

def planEncrypt (state : SenderKeyState K) (nonce : K) (plaintext : T) :
    Except Error (SenderKeyEncryptPlan K T) := do
  let (nextChainKey, messageKey) := deriveMessageKey state.chainKey
  let iteration ← u32CheckedSucc state.iteration (.encryption "sender-key iteration overflow")
  let ciphertext ←
    (Primitives.encryptToBytes messageKey nonce plaintext).mapError Error.nip44
  pure {
    nextState := { state with chainKey := nextChainKey, iteration := iteration }
    keyId := state.keyId
    messageNumber := state.iteration
    ciphertext := ciphertext
    plaintext := plaintext }

/-- One turn of the `while self.iteration < message_number` loop. -/
def skipOne (state : SenderKeyState K) : Except Error (SenderKeyState K) := do
  let (nextChainKey, messageKey) := deriveMessageKey state.chainKey
  let iteration ← u32CheckedSucc state.iteration (.decryption "sender-key iteration overflow")
  pure { state with
    chainKey := nextChainKey
    skippedMessageKeys := state.skippedMessageKeys.insert state.iteration messageKey
    iteration := iteration }

def skipForward : Nat → SenderKeyState K → Except Error (SenderKeyState K)
  | 0, state => .ok state
  | n + 1, state => state.skipOne >>= skipForward n

/-- `decrypt_in_place`. The loop runs `message_number - iteration` times. -/
def decryptInPlace (state : SenderKeyState K) (messageNumber : Nat) (ciphertext : T) :
    Except Error (SenderKeyState K × T) :=
  if messageNumber < state.iteration then
    match state.skippedMessageKeys.get? messageNumber with
    | none => .error (.decryption "duplicate or missing sender-key message")
    | some messageKey => do
        let plaintext ← decryptWithMessageKey messageKey ciphertext
        pure ({ state with
          skippedMessageKeys := state.skippedMessageKeys.erase messageNumber }, plaintext)
  else if messageNumber - state.iteration > SENDER_KEY_MAX_SKIP then
    .error (.domain .tooManySkippedMessages)
  else do
    let state ← skipForward (messageNumber - state.iteration) state
    let (nextChainKey, messageKey) := deriveMessageKey state.chainKey
    let iteration ← u32CheckedSucc state.iteration (.decryption "sender-key iteration overflow")
    let plaintext ← decryptWithMessageKey messageKey ciphertext
    pure ({ state with
      chainKey := nextChainKey
      iteration := iteration
      skippedMessageKeys := pruneSkipped state.skippedMessageKeys }, plaintext)

def planDecrypt (state : SenderKeyState K) (message : SenderKeyMessageContent T) :
    Except Error (SenderKeyDecryptPlan K T) :=
  if message.keyId ≠ state.keyId then
    .error (.decryption s!"sender-key id mismatch: expected {state.keyId}, got {message.keyId}")
  else do
    let (nextState, plaintext) ← state.decryptInPlace message.messageNumber message.ciphertext
    pure ⟨nextState, plaintext⟩

/-- `apply_encrypt`, as the state it leaves. -/
def applyEncrypt (_state : SenderKeyState K) (plan : SenderKeyEncryptPlan K T) :
    SenderKeyState K :=
  plan.nextState

/-- `apply_decrypt`, as the state it leaves. -/
def applyDecrypt (_state : SenderKeyState K) (plan : SenderKeyDecryptPlan K T) :
    SenderKeyState K :=
  plan.nextState

/-- The key the chain derives for number `n` at or above `iteration`. -/
def forwardKey (state : SenderKeyState K) (n : Nat) : K :=
  KeyChain.messageKey deriveMessageKey state.chainKey (n - state.iteration)

/-- The retained keys after skipping to number `n`, before pruning. -/
def skippedTo (state : SenderKeyState K) (n : Nat) : SortedMap Nat K :=
  (KeyChain.skipKeys deriveMessageKey (n - state.iteration) state.chainKey
    state.iteration state.skippedMessageKeys).2.2

/-- The state after accepting number `n` at or above `iteration`. -/
def forwardState (state : SenderKeyState K) (n : Nat) : SenderKeyState K where
  keyId := state.keyId
  chainKey := KeyChain.chainKey deriveMessageKey state.chainKey (n - state.iteration + 1)
  iteration := n + 1
  skippedMessageKeys := pruneSkipped (state.skippedTo n)

/-- The state after consuming the retained key `n`. -/
def consumeState (state : SenderKeyState K) (n : Nat) : SenderKeyState K :=
  { state with skippedMessageKeys := state.skippedMessageKeys.erase n }

theorem planEncrypt_eq_ok {state : SenderKeyState K} {nonce : K} {plaintext : T}
    {plan : SenderKeyEncryptPlan K T} (h : state.planEncrypt nonce plaintext = .ok plan) :
    state.iteration < u32Max ∧
      Primitives.encryptToBytes (deriveMessageKey state.chainKey).2 nonce plaintext =
        .ok plan.ciphertext ∧
      plan.keyId = state.keyId ∧ plan.messageNumber = state.iteration ∧
      plan.nextState = { state with
        chainKey := (deriveMessageKey state.chainKey).1
        iteration := state.iteration + 1 } := by
  change u32CheckedSucc state.iteration _ >>= _ = _ at h
  rw [except_bind_eq_ok] at h
  obtain ⟨iteration, hiter, h⟩ := h
  rw [except_bind_eq_ok] at h
  obtain ⟨ciphertext, henc, h⟩ := h
  cases h
  rw [u32CheckedSucc] at hiter
  split at hiter
  · rename_i hlt
    cases hiter
    exact ⟨hlt, mapError_eq_ok.mp henc, rfl, rfl, rfl⟩
  · cases hiter

theorem get?_skippedTo (state : SenderKeyState K) (n x : Nat) :
    (state.skippedTo n).get? x =
      if state.iteration ≤ x ∧ x < n then some (state.forwardKey x)
      else state.skippedMessageKeys.get? x := by
  unfold skippedTo forwardKey
  rw [KeyChain.get?_skipKeys]
  by_cases hx : state.iteration ≤ x ∧ x < n
  · have hin : state.iteration ≤ x ∧ x < state.iteration + (n - state.iteration) := by omega
    rw [if_pos hin, if_pos hx]
  · have hout : ¬ (state.iteration ≤ x ∧ x < state.iteration + (n - state.iteration)) := by
      omega
    rw [if_neg hout, if_neg hx]

theorem skipForward_eq (n : Nat) (state : SenderKeyState K)
    (h : state.iteration + n ≤ u32Max) :
    skipForward n state = .ok { state with
      chainKey := KeyChain.chainKey deriveMessageKey state.chainKey n
      iteration := state.iteration + n
      skippedMessageKeys := (KeyChain.skipKeys deriveMessageKey n state.chainKey
        state.iteration state.skippedMessageKeys).2.2 } := by
  induction n generalizing state with
  | zero => rfl
  | succ n ih =>
      have hlt : state.iteration < u32Max := by omega
      have hone : state.skipOne = .ok { state with
          chainKey := (deriveMessageKey state.chainKey).1
          skippedMessageKeys := state.skippedMessageKeys.insert state.iteration
            (deriveMessageKey state.chainKey).2
          iteration := state.iteration + 1 } := by
        rw [skipOne, u32CheckedSucc, if_pos hlt]
        rfl
      rw [skipForward, hone]
      change skipForward n _ = _
      rw [ih _ (by change state.iteration + 1 + n ≤ u32Max; omega)]
      simp only [KeyChain.chainKey_step, KeyChain.skipKeys]
      have hsum : state.iteration + 1 + n = state.iteration + (n + 1) := by omega
      rw [hsum]

theorem skipForward_iteration (n : Nat) (state next : SenderKeyState K)
    (h : skipForward n state = .ok next) : next.iteration = state.iteration + n := by
  induction n generalizing state with
  | zero =>
      cases h
      rfl
  | succ n ih =>
      rw [skipForward, except_bind_eq_ok] at h
      obtain ⟨mid, hone, hrest⟩ := h
      have hmid : mid.iteration = state.iteration + 1 := by
        change u32CheckedSucc state.iteration _ >>= _ = _ at hone
        rw [u32CheckedSucc] at hone
        split at hone
        · cases hone
          rfl
        · cases hone
      rw [ih mid hrest, hmid]
      omega

/-- Positioned decryption at or above `iteration` tries one key. -/
theorem decryptInPlace_forward (state : SenderKeyState K) (n : Nat) (ciphertext : T)
    (hle : state.iteration ≤ n) (hskip : n - state.iteration ≤ SENDER_KEY_MAX_SKIP)
    (hmax : n < u32Max) :
    state.decryptInPlace n ciphertext =
      (decryptWithMessageKey (state.forwardKey n) ciphertext).map
        (fun plaintext => (state.forwardState n, plaintext)) := by
  have hsum : state.iteration + (n - state.iteration) = n := by omega
  have hnlt : ¬ n < state.iteration := by omega
  have hnskip : ¬ n - state.iteration > SENDER_KEY_MAX_SKIP := by omega
  rw [decryptInPlace, if_neg hnlt, if_neg hnskip, skipForward_eq _ _ (by omega)]
  change u32CheckedSucc (state.iteration + (n - state.iteration)) _ >>= _ = _
  rw [hsum, u32CheckedSucc, if_pos hmax]
  change decryptWithMessageKey (state.forwardKey n) ciphertext >>= _ = _
  cases decryptWithMessageKey (state.forwardKey n) ciphertext with
  | error e => rfl
  | ok plaintext =>
      simp only [Except.map, forwardState, skippedTo, KeyChain.chainKey_succ]
      rfl

theorem decryptInPlace_at_max (state : SenderKeyState K) (n : Nat) (ciphertext : T)
    (hle : state.iteration ≤ n) (hmax : u32Max ≤ n) (result : SenderKeyState K × T) :
    state.decryptInPlace n ciphertext ≠ .ok result := by
  intro h
  have hnlt : ¬ n < state.iteration := by omega
  rw [decryptInPlace, if_neg hnlt] at h
  split at h
  · cases h
  · rw [except_bind_eq_ok] at h
    obtain ⟨mid, hmid, h⟩ := h
    have hiter : mid.iteration = n := by
      rw [skipForward_iteration _ _ _ hmid]
      omega
    change u32CheckedSucc mid.iteration _ >>= _ = _ at h
    rw [hiter, u32CheckedSucc, if_neg (by omega)] at h
    cases h

/-- What positioned decryption can do: consume a retained key, or move the
chain forward inside the window. -/
theorem planDecrypt_eq_ok {state : SenderKeyState K} {message : SenderKeyMessageContent T}
    {plan : SenderKeyDecryptPlan K T} :
    state.planDecrypt message = .ok plan ↔
      message.keyId = state.keyId ∧
      ((message.messageNumber < state.iteration ∧
          (∃ key, state.skippedMessageKeys.get? message.messageNumber = some key ∧
            decryptWithMessageKey key message.ciphertext = .ok plan.plaintext) ∧
          plan.nextState = state.consumeState message.messageNumber) ∨
        (state.iteration ≤ message.messageNumber ∧
          message.messageNumber - state.iteration ≤ SENDER_KEY_MAX_SKIP ∧
          message.messageNumber < u32Max ∧
          decryptWithMessageKey (state.forwardKey message.messageNumber) message.ciphertext =
            .ok plan.plaintext ∧
          plan.nextState = state.forwardState message.messageNumber)) := by
  obtain ⟨next, plain⟩ := plan
  obtain ⟨keyId, n, ciphertext⟩ := message
  simp only [planDecrypt]
  by_cases hid : keyId = state.keyId
  case neg =>
    rw [if_pos hid]
    simp [hid]
  rw [if_neg (not_not_intro hid), except_bind_eq_ok]
  have hfinal : (∃ result : SenderKeyState K × T,
      state.decryptInPlace n ciphertext = .ok result ∧
        (pure ⟨result.1, result.2⟩ : Except Error (SenderKeyDecryptPlan K T)) =
          .ok ⟨next, plain⟩) ↔ state.decryptInPlace n ciphertext = .ok (next, plain) := by
    constructor
    · rintro ⟨⟨a, b⟩, hres, heq⟩
      cases heq
      exact hres
    · intro hres
      exact ⟨(next, plain), hres, rfl⟩
  refine hfinal.trans ?_
  simp only [hid, true_and]
  by_cases hlt : n < state.iteration
  · have hnle : ¬ state.iteration ≤ n := by omega
    simp only [hlt, true_and, hnle, false_and, or_false]
    rw [decryptInPlace, if_pos hlt]
    cases hget : state.skippedMessageKeys.get? n with
    | none => simp
    | some key =>
        simp only [Option.some.injEq, exists_eq_left']
        cases hdec : decryptWithMessageKey key ciphertext with
        | error e =>
            constructor
            · intro h
              cases h
            · rintro ⟨h, -⟩
              cases h
        | ok p =>
            constructor
            · intro h
              cases h
              exact ⟨rfl, rfl⟩
            · rintro ⟨h, rfl⟩
              cases h
              rfl
  · have hle : state.iteration ≤ n := by omega
    simp only [hlt, false_and, false_or, hle, true_and]
    by_cases hskip : n - state.iteration ≤ SENDER_KEY_MAX_SKIP
    · by_cases hmax : n < u32Max
      · rw [decryptInPlace_forward state n ciphertext hle hskip hmax]
        simp only [hskip, hmax, true_and]
        cases hdec : decryptWithMessageKey (state.forwardKey n) ciphertext with
        | error e => simp [Except.map]
        | ok p =>
            simp only [Except.map, Except.ok.injEq, Prod.mk.injEq]
            tauto
      · simp only [hmax, false_and, and_false, iff_false]
        exact decryptInPlace_at_max state n ciphertext hle (by omega) _
    · have hgt : n - state.iteration > SENDER_KEY_MAX_SKIP := by omega
      rw [decryptInPlace, if_neg hlt, if_pos hgt]
      simp [hskip]

end SenderKeyState

end

end NostrDoubleRatchet
