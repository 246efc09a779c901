import NostrDoubleRatchet.Session.State

/-!
What each operation of a session does when it succeeds, in terms of the
receiving chain and the retained keys.
-/

namespace NostrDoubleRatchet

variable {K T : Type} [LinearOrder K] [Primitives K T]

/-- The state once the receiving chain `chainKey` has been skipped to `number`. -/
def SessionState.skipTo (state : SessionState K) (chainKey : K) (number : Nat)
    (sender : DevicePubkey K) : SessionState K :=
  if number ≤ state.receivingChainMessageNumber then state
  else { state with
    receivingChainKey := some (KeyChain.chainKey chainStep chainKey
      (number - state.receivingChainMessageNumber))
    receivingChainMessageNumber := number
    skippedKeys := state.skippedKeys.insert sender ⟨pruneSkippedMessageKeys
      (KeyChain.skipKeys chainStep (number - state.receivingChainMessageNumber) chainKey
        state.receivingChainMessageNumber (state.skippedFrom sender)).2.2⟩ }

/-- The state once the retained key `number` of `sender` has been used. -/
def SessionState.consume (state : SessionState K) (number : Nat) (sender : DevicePubkey K) :
    SessionState K :=
  { state with
    skippedKeys :=
      if ((state.skippedFrom sender).erase number).length = 0 then
        state.skippedKeys.erase sender
      else state.skippedKeys.insert sender ⟨(state.skippedFrom sender).erase number⟩ }

/-- The state once the chain has been skipped to `number` and its key used. -/
def SessionState.forward (state : SessionState K) (chainKey : K) (number : Nat)
    (sender : DevicePubkey K) : SessionState K :=
  { state.skipTo chainKey number sender with
    receivingChainKey := some (KeyChain.chainKey chainStep chainKey
      (number - state.receivingChainMessageNumber + 1))
    receivingChainMessageNumber :=
      u32Succ (state.skipTo chainKey number sender).receivingChainMessageNumber }

omit [LinearOrder K] in
theorem skipLoop_eq (count : Nat) (chainKey : K) (number : Nat) (entry : SortedMap Nat K) :
    skipLoop count (some chainKey) number entry =
      .ok (some (KeyChain.chainKey chainStep chainKey count), number + count,
        (KeyChain.skipKeys chainStep count chainKey number entry).2.2) := by
  induction count generalizing chainKey number entry with
  | zero => rfl
  | succ count ih =>
      have hsum : number + 1 + count = number + (count + 1) := by omega
      rw [skipLoop, ih, KeyChain.chainKey_step, hsum, KeyChain.skipKeys]

theorem skipMessageKeys_eq {state : SessionState K} {chainKey : K} {number : Nat}
    {sender : DevicePubkey K} (hchain : state.receivingChainKey = some chainKey) :
    skipMessageKeys state number sender =
      if number - state.receivingChainMessageNumber ≤ MAX_SKIP then
        .ok (state.skipTo chainKey number sender)
      else .error (.domain .tooManySkippedMessages) := by
  rw [skipMessageKeys, SessionState.skipTo]
  by_cases hle : number ≤ state.receivingChainMessageNumber
  · have hzero : number - state.receivingChainMessageNumber ≤ MAX_SKIP := by omega
    rw [if_pos hle, if_pos hle, if_pos hzero]
  · rw [if_neg hle, if_neg hle]
    by_cases hskip : number - state.receivingChainMessageNumber ≤ MAX_SKIP
    · have hsum : state.receivingChainMessageNumber +
          (number - state.receivingChainMessageNumber) = number := by omega
      rw [if_neg (by omega), if_pos hskip, hchain, skipLoop_eq, hsum]
      rfl
    · rw [if_pos (by omega), if_neg hskip]

theorem skipTo_receivingChainKey {state : SessionState K} {chainKey : K} {number : Nat}
    {sender : DevicePubkey K} (hchain : state.receivingChainKey = some chainKey) :
    (state.skipTo chainKey number sender).receivingChainKey =
      some (KeyChain.chainKey chainStep chainKey
        (number - state.receivingChainMessageNumber)) := by
  rw [SessionState.skipTo]
  split
  · rename_i hle
    rw [Nat.sub_eq_zero_of_le hle, hchain]
    rfl
  · rfl

theorem decryptFromChain_eq_ok {state : SessionState K} {chainKey : K} {header : Header K}
    {ciphertext payload : T} {sender : DevicePubkey K} {next : SessionState K}
    (hchain : state.receivingChainKey = some chainKey) :
    decryptFromChain state header ciphertext sender = .ok (next, payload) ↔
      header.number - state.receivingChainMessageNumber ≤ MAX_SKIP ∧
      openCiphertext (KeyChain.messageKey chainStep chainKey
        (header.number - state.receivingChainMessageNumber)) ciphertext = .ok payload ∧
      next = state.forward chainKey header.number sender := by
  have hsome : state.receivingChainKey.isNone = false := by
    rw [hchain]
    rfl
  rw [decryptFromChain, hsome, if_neg Bool.false_ne_true, skipMessageKeys_eq hchain]
  by_cases hskip : header.number - state.receivingChainMessageNumber ≤ MAX_SKIP
  · rw [if_pos hskip]
    dsimp only [bind, Except.bind]
    rw [skipTo_receivingChainKey hchain]
    change openCiphertext _ ciphertext >>= _ = _ ↔ _
    rw [except_bind_eq_ok]
    constructor
    · rintro ⟨plain, hopen, hnext⟩
      cases hnext
      refine ⟨hskip, hopen, ?_⟩
      rw [SessionState.forward, KeyChain.chainKey_succ]
    · rintro ⟨-, hopen, rfl⟩
      refine ⟨payload, hopen, ?_⟩
      rw [SessionState.forward, KeyChain.chainKey_succ]
      rfl
  · rw [if_neg hskip]
    constructor
    · intro h
      cases h
    · rintro ⟨h, -⟩
      exact absurd h hskip

/-- A message body is opened with the retained key of its number when there is
one, and with the chain otherwise. -/
theorem ratchetDecrypt_eq_ok {state : SessionState K} {chainKey : K} {header : Header K}
    {ciphertext payload : T} {sender : DevicePubkey K} {next : SessionState K}
    (hchain : state.receivingChainKey = some chainKey) :
    ratchetDecrypt state header ciphertext sender = .ok (next, payload) ↔
      (∃ key, (state.skippedFrom sender).get? header.number = some key ∧
        openCiphertext key ciphertext = .ok payload ∧
        next = state.consume header.number sender) ∨
      ((state.skippedFrom sender).get? header.number = none ∧
        header.number - state.receivingChainMessageNumber ≤ MAX_SKIP ∧
        openCiphertext (KeyChain.messageKey chainStep chainKey
          (header.number - state.receivingChainMessageNumber)) ciphertext = .ok payload ∧
        next = state.forward chainKey header.number sender) := by
  rw [ratchetDecrypt, except_bind_eq_ok]
  cases hget : (state.skippedFrom sender).get? header.number with
  | none =>
      have htry : trySkippedMessageKeys state header ciphertext sender = .ok none := by
        rw [trySkippedMessageKeys]
        rw [SessionState.skippedFrom] at hget
        cases hentry : state.skippedKeys.get? sender with
        | none => rfl
        | some entry =>
            rw [hentry] at hget
            simp only
            rw [show entry.messageKeys.get? header.number = none from hget]
      rw [htry]
      simp only [Except.ok.injEq, exists_eq_left', reduceCtorEq, false_and, exists_false,
        false_or, true_and]
      exact decryptFromChain_eq_ok hchain
  | some key =>
      have htry : trySkippedMessageKeys state header ciphertext sender =
          (openCiphertext key ciphertext).map (fun plaintext =>
            some (state.consume header.number sender, plaintext)) := by
        rw [trySkippedMessageKeys]
        cases hentry : state.skippedKeys.get? sender with
        | none =>
            rw [SessionState.skippedFrom, hentry] at hget
            cases hget
        | some entry =>
            have hfrom : state.skippedFrom sender = entry.messageKeys := by
              rw [SessionState.skippedFrom, hentry]
              rfl
            rw [hfrom] at hget
            simp only [hget, SessionState.consume, hfrom]
            cases openCiphertext key ciphertext with
            | error e => rfl
            | ok plain => rfl
      rw [htry]
      simp only [Option.some.injEq, exists_eq_left', reduceCtorEq, false_and, or_false]
      cases openCiphertext key ciphertext with
      | error e => simp [Except.map]
      | ok plain =>
          simp only [Except.map, Except.ok.injEq, exists_eq_left']
          change Except.ok (_, _) = Except.ok (_, _) ↔ _
          simp only [Except.ok.injEq, Prod.mk.injEq]
          tauto

end NostrDoubleRatchet
