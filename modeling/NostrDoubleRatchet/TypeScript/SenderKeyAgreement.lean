import NostrDoubleRatchet.SenderKey.BlindRefinement
import NostrDoubleRatchet.TypeScript.SenderKeyChain

/-!
The sender keys of `SenderKey.ts` and of `sender_key.rs` beside each other. Both hold the same
state, so agreement is equality: every delivery is answered alike and leaves the same state. For
positioned messages both do one of two things, consume a retained key or move forward; a blind
search tries the same keys in the same order, the Rust cursor pruning as it goes and the other
one at the end.
-/

namespace NostrDoubleRatchet

variable {K T : Type} [Primitives K T]

/-- A message for one chain, with its number or without. -/
inductive ChainDelivery (T : Type) where
  | positioned (messageNumber : UInt32) (ciphertext : T)
  | blind (ciphertext : T)

/-- What a client shows of an accepted message. -/
structure OpenedMessage (T : Type) where
  keyId : Nat
  messageNumber : Nat
  plaintext : T
  deriving DecidableEq

namespace SenderKeyState

/-- `plan_decrypt` or `plan_decrypt_blind`, and what applying the plan leaves. -/
def receive (state : SenderKeyState K) :
    ChainDelivery T → Option (OpenedMessage T) × SenderKeyState K
  | .positioned messageNumber ciphertext =>
      match state.planDecrypt ⟨state.keyId, messageNumber.toNat, ciphertext⟩ with
      | .ok plan =>
          (some ⟨state.keyId, messageNumber.toNat, plan.plaintext⟩, state.applyDecrypt plan)
      | .error _ => (none, state)
  | .blind ciphertext =>
      match state.planDecryptBlind ciphertext with
      | .ok plan => (some ⟨plan.keyId, plan.messageNumber, plan.plaintext⟩, plan.nextState)
      | .error _ => (none, state)

def receiveAll (state : SenderKeyState K) :
    List (ChainDelivery T) → List (Option (OpenedMessage T)) × SenderKeyState K
  | [] => ([], state)
  | delivery :: rest =>
      let (opened, next) := state.receive delivery
      let (later, last) := next.receiveAll rest
      (opened :: later, last)

end SenderKeyState

namespace TypeScript.SenderKeyState

/-- `decryptFromBytes` or `decryptBlindFromBytes`; a throw leaves the state. -/
def receive (state : SenderKeyState K) :
    ChainDelivery T → Option (OpenedMessage T) × SenderKeyState K
  | .positioned messageNumber ciphertext =>
      match decryptFromBytes state messageNumber.toNat ciphertext with
      | .ok (plaintext, next) => (some ⟨state.keyId, messageNumber.toNat, plaintext⟩, next)
      | .error _ => (none, state)
  | .blind ciphertext =>
      match decryptBlindFromBytes state ciphertext with
      | .ok (messageNumber, plaintext, next) =>
          (some ⟨state.keyId, messageNumber, plaintext⟩, next)
      | .error _ => (none, state)

def receiveAll (state : SenderKeyState K) :
    List (ChainDelivery T) → List (Option (OpenedMessage T)) × SenderKeyState K
  | [] => ([], state)
  | delivery :: rest =>
      let (opened, next) := receive state delivery
      let (later, last) := receiveAll next rest
      (opened :: later, last)

/-! Positioned messages. -/

/-- Inside the window a positioned message is opened with the forward key. -/
theorem decryptFromBytes_forward {state : SenderKeyState K} {n : Nat} (ciphertext : T)
    (hle : state.iteration ≤ n) (hskip : n - state.iteration ≤ SENDER_KEY_MAX_SKIP)
    (hmax : n < u32Max) :
    decryptFromBytes state n ciphertext =
      (Primitives.decryptToBytes (state.forwardKey n) ciphertext).map
        (fun plaintext => (plaintext, state.forwardState n)) := by
  have hnumber : state.iteration + (n - state.iteration) = n := by omega
  have hchain := KeyChain.skipKeys_chainKey (deriveMessageKey (K := K) (T := T))
    (n - state.iteration) state.iteration state.chainKey state.skippedMessageKeys
  have hiter := KeyChain.skipKeys_number (deriveMessageKey (K := K) (T := T))
    (n - state.iteration) state.iteration state.chainKey state.skippedMessageKeys
  rw [hnumber] at hiter
  rw [decryptFromBytes, if_neg (by omega), if_neg (by omega), if_neg (by omega),
    if_neg (by omega)]
  dsimp only
  rw [hchain, hiter]
  have hkey : (deriveMessageKey (T := T) (KeyChain.chainKey (deriveMessageKey (T := T))
      state.chainKey (n - state.iteration))).2 = state.forwardKey (T := T) n := rfl
  have hnext : (⟨state.keyId, (deriveMessageKey (T := T) (KeyChain.chainKey
      (deriveMessageKey (T := T)) state.chainKey (n - state.iteration))).1, n + 1,
      pruneSkipped (state.skippedTo (T := T) n)⟩ : SenderKeyState K) =
        state.forwardState (T := T) n := by
    rw [SenderKeyState.forwardState, KeyChain.chainKey_succ]
  rw [hkey, ← hnext]
  cases Primitives.decryptToBytes (state.forwardKey (T := T) n) ciphertext with
  | error e => rfl
  | ok plaintext => rfl

/-- Both clients accept the same positioned messages, with the same states after them. -/
theorem decryptFromBytes_iff_planDecrypt {state next : SenderKeyState K} {n : Nat}
    {ciphertext plaintext : T} (hn : n ≤ u32Max) :
    decryptFromBytes state n ciphertext = .ok (plaintext, next) ↔
      state.planDecrypt ⟨state.keyId, n, ciphertext⟩ = .ok ⟨next, plaintext⟩ := by
  rw [SenderKeyState.planDecrypt_eq_ok]
  simp only [decryptWithMessageKey, mapError_eq_ok, true_and]
  by_cases hlt : n < state.iteration
  · have hnle : ¬ state.iteration ≤ n := by omega
    simp only [hlt, hnle, true_and, false_and, or_false]
    rw [decryptFromBytes, if_neg (by omega), if_pos hlt]
    cases hget : state.skippedMessageKeys.get? n with
    | none => simp
    | some key =>
        simp only [Option.some.injEq, exists_eq_left']
        cases hdec : Primitives.decryptToBytes key ciphertext with
        | error e =>
            constructor
            · intro h
              cases h
            · rintro ⟨h, -⟩
              cases h
        | ok p =>
            constructor
            · intro h
              cases h
              exact ⟨rfl, rfl⟩
            · rintro ⟨h, rfl⟩
              cases h
              rfl
  have hle : state.iteration ≤ n := by omega
  simp only [hlt, hle, true_and, false_and, false_or]
  by_cases hskip : n - state.iteration ≤ SENDER_KEY_MAX_SKIP
  · by_cases hmax : n < u32Max
    · rw [decryptFromBytes_forward ciphertext hle hskip hmax]
      simp only [hskip, hmax, true_and]
      cases hdec : Primitives.decryptToBytes (state.forwardKey (T := T) n) ciphertext with
      | error e => simp [Except.map]
      | ok p =>
          simp only [Except.map, Except.ok.injEq, Prod.mk.injEq]
          tauto
    · have heq : n = u32Max := by omega
      rw [decryptFromBytes, if_neg (by omega), if_neg hlt, if_neg (by omega), if_pos heq]
      simp [hmax]
  · rw [decryptFromBytes, if_neg (by omega), if_neg hlt, if_pos (by omega)]
    simp [hskip]

/-! Blind messages. -/

open BlindSearch

/-- The first trial that opens the ciphertext. -/
def firstOpened (ciphertext : T) : List (Trial K) → Option (Nat × T × SenderKeyState K)
  | [] => none
  | trial :: rest =>
      match Primitives.decryptToBytes trial.key ciphertext with
      | .ok plaintext => some (trial.number, plaintext, trial.next)
      | .error _ => firstOpened ciphertext rest

theorem firstOpened_append (ciphertext : T) (first second : List (Trial K)) :
    firstOpened ciphertext (first ++ second) =
      (firstOpened ciphertext first).or (firstOpened ciphertext second) := by
  induction first with
  | nil => rfl
  | cons trial rest ih =>
      rw [List.cons_append, firstOpened, firstOpened]
      cases Primitives.decryptToBytes trial.key ciphertext with
      | ok plaintext => rfl
      | error e => exact ih

theorem firstOpened_retained (ciphertext : T) (state : SenderKeyState K)
    (entries : List (Nat × K)) :
    firstOpened ciphertext (retainedTrials state entries) =
      (tryRetained ciphertext entries).map
        (fun found => (found.1, found.2, state.consumeState found.1)) := by
  induction entries with
  | nil => rfl
  | cons entry rest ih =>
      obtain ⟨number, key⟩ := entry
      change firstOpened ciphertext (⟨number, key, state.consumeState number⟩ ::
        retainedTrials state rest) = _
      rw [firstOpened, tryRetained]
      cases Primitives.decryptToBytes key ciphertext with
      | ok plaintext => rfl
      | error e => exact ih

theorem forwardState_passOver {state : SenderKeyState K} {n : Nat} (h : state.iteration < n) :
    (passOver (T := T) state).forwardState (T := T) n = state.forwardState (T := T) n := by
  have hsum : n - state.iteration = n - (state.iteration + 1) + 1 := by omega
  have hskipped : (passOver (T := T) state).skippedTo (T := T) n = state.skippedTo (T := T) n := by
    unfold SenderKeyState.skippedTo
    rw [hsum]
    rfl
  have hchain : KeyChain.chainKey (deriveMessageKey (T := T)) state.chainKey
      (n - state.iteration + 1) = KeyChain.chainKey (deriveMessageKey (T := T))
        (deriveMessageKey (T := T) state.chainKey).1 (n - (state.iteration + 1) + 1) := by
    rw [hsum, ← KeyChain.chainKey_step]
  unfold SenderKeyState.forwardState
  rw [hskipped, hchain]
  rfl

/-- Past the next key the trials are those of the state that has passed over it. -/
theorem forwardTrials_passOver (state : SenderKeyState K) (count : Nat) :
    forwardTrials (T := T) state (state.iteration + 1) count =
      forwardTrials (T := T) (passOver (T := T) state) (state.iteration + 1) count := by
  unfold forwardTrials
  apply List.map_congr_left
  intro n hmem
  obtain ⟨hle, -⟩ := List.mem_range'_1.mp hmem
  rw [forwardKey_passOver (by omega), forwardState_passOver (by omega)]

/-- The loop tries the forward keys one by one, as far as the numbers go. -/
theorem searchForward_toOption (ciphertext : T) (turns : Nat) {state : SenderKeyState K}
    (h : state.iteration ≤ u32Max) :
    (searchForward ciphertext turns state).toOption =
      firstOpened ciphertext (forwardTrials (T := T) state state.iteration
        (min turns (u32Max - state.iteration))) := by
  induction turns generalizing state with
  | zero =>
      rw [Nat.zero_min]
      rfl
  | succ turns ih =>
      rw [searchForward_succ]
      split
      · rename_i hmax
        rw [hmax, Nat.sub_self, Nat.min_zero]
        rfl
      · rename_i hmax
        have hcount : min (turns + 1) (u32Max - state.iteration) =
            min turns (u32Max - (state.iteration + 1)) + 1 := by omega
        have htrials : forwardTrials (T := T) state state.iteration
            (min turns (u32Max - (state.iteration + 1)) + 1) =
              ⟨state.iteration, state.forwardKey (T := T) state.iteration,
                state.forwardState (T := T) state.iteration⟩ ::
                forwardTrials (T := T) (passOver (T := T) state) (state.iteration + 1)
                  (min turns (u32Max - (state.iteration + 1))) := by
          rw [← forwardTrials_passOver]
          unfold forwardTrials
          rw [List.range'_succ]
          rfl
        rw [hcount, htrials, firstOpened]
        cases Primitives.decryptToBytes (state.forwardKey (T := T) state.iteration) ciphertext with
        | ok plaintext => rfl
        | error e =>
            have hnext : (passOver (T := T) state).iteration ≤ u32Max := by
              change state.iteration + 1 ≤ u32Max
              omega
            exact ih hnext

/-- The blind search of the TypeScript client over the same list of trials. -/
theorem decryptBlindFromBytes_toOption (ciphertext : T) {state : SenderKeyState K}
    (h : state.iteration ≤ u32Max) :
    (decryptBlindFromBytes state ciphertext).toOption =
      firstOpened ciphertext (trials (T := T) state) := by
  have hwindow : min (min u32Max (state.iteration + SENDER_KEY_MAX_SKIP) + 1 - state.iteration)
      (u32Max - state.iteration) = windowSize state := by
    unfold windowSize
    omega
  unfold decryptBlindFromBytes trials
  rw [firstOpened_append, firstOpened_retained]
  cases tryRetained ciphertext state.skippedMessageKeys.entries with
  | some found => rfl
  | none =>
      dsimp only
      rw [searchForward_toOption ciphertext _ h, hwindow]
      rfl

/-- With budget enough the Rust search takes the first trial that opens. -/
theorem runTrials_eq (state : SenderKeyState K) (ciphertext : T) (budget : Nat)
    (list : List (Trial K)) (h : list.length < budget) :
    runTrials state ciphertext budget list =
      match firstOpened ciphertext list with
      | some found => .ok (.complete ⟨found.2.2, state.keyId, found.1, found.2.1⟩)
      | none => lastStep state := by
  induction list generalizing budget with
  | nil =>
      obtain _ | budget := budget
      · cases h
      · rfl
  | cons trial rest ih =>
      obtain _ | budget := budget
      · cases h
      · rw [runTrials, firstOpened, decryptWithMessageKey]
        cases Primitives.decryptToBytes trial.key ciphertext with
        | ok plaintext => rfl
        | error e => exact ih budget (Nat.lt_of_succ_lt_succ h)

/-- What every state of a run keeps. -/
structure Bounded (state : SenderKeyState K) : Prop where
  iteration : state.iteration ≤ u32Max
  retained : state.skippedMessageKeys.length ≤ SENDER_KEY_MAX_STORED_SKIPPED_KEYS

theorem planDecryptBlind_eq (ciphertext : T) {state : SenderKeyState K} (h : Bounded state) :
    state.planDecryptBlind ciphertext =
      match firstOpened ciphertext (trials (T := T) state) with
      | some found => .ok ⟨found.2.2, state.keyId, found.1, found.2.1⟩
      | none => .error (match lastStep (T := T) state with
        | .error e => e
        | .ok _ => .decryption "sender-key blind decrypt failed") := by
  have hlength : (trials (T := T) state).length < 2 ^ 64 - 1 := by
    have hle := length_trials_le (T := T) state
    have hretained := h.retained
    have hskip : SENDER_KEY_MAX_SKIP = 10000 := rfl
    have hstored : SENDER_KEY_MAX_STORED_SKIPPED_KEYS = 2000 := rfl
    omega
  have hsearch := search_eq_runTrials state ciphertext [2 ^ 64 - 1]
  rw [search_eq_advance, List.sum_singleton, runTrials_eq _ _ _ _ hlength] at hsearch
  unfold SenderKeyState.planDecryptBlind
  rw [hsearch]
  cases firstOpened ciphertext (trials (T := T) state) with
  | some found => rfl
  | none =>
      dsimp only
      unfold lastStep
      by_cases hlast : state.iteration ≤ u32Max ∧ u32Max ≤ state.iteration + SENDER_KEY_MAX_SKIP
      · rw [if_pos hlast]
        rfl
      · rw [if_neg hlast]
        rfl

/-- One delivery is answered alike. -/
theorem receive_eq {state : SenderKeyState K} (h : Bounded state) (delivery : ChainDelivery T) :
    receive state delivery = state.receive delivery := by
  cases delivery with
  | positioned messageNumber ciphertext =>
      have hn : messageNumber.toNat ≤ u32Max := by
        have hlt := messageNumber.toNat_lt
        unfold u32Max
        omega
      rw [receive, NostrDoubleRatchet.SenderKeyState.receive]
      cases hts : decryptFromBytes state messageNumber.toNat ciphertext with
      | ok result =>
          obtain ⟨plaintext, next⟩ := result
          rw [(decryptFromBytes_iff_planDecrypt hn).mp hts]
          rfl
      | error e =>
          cases hrust : state.planDecrypt ⟨state.keyId, messageNumber.toNat, ciphertext⟩ with
          | ok plan =>
              obtain ⟨next, plaintext⟩ := plan
              rw [(decryptFromBytes_iff_planDecrypt hn).mpr hrust] at hts
              cases hts
          | error e => rfl
  | blind ciphertext =>
      have hts := decryptBlindFromBytes_toOption ciphertext h.iteration
      have hrust := planDecryptBlind_eq ciphertext h
      rw [receive, NostrDoubleRatchet.SenderKeyState.receive]
      rw [hrust]
      cases hfound : firstOpened ciphertext (trials (T := T) state) with
      | some found =>
          rw [hfound] at hts
          cases hblind : decryptBlindFromBytes state ciphertext with
          | ok result =>
              rw [hblind] at hts
              cases hts
              rfl
          | error e =>
              rw [hblind] at hts
              cases hts
      | none =>
          rw [hfound] at hts
          cases hblind : decryptBlindFromBytes state ciphertext with
          | ok result =>
              rw [hblind] at hts
              cases hts
          | error e => rfl

theorem bounded_consumeState {state : SenderKeyState K} (h : Bounded state) (n : Nat) :
    Bounded (state.consumeState n) :=
  ⟨h.iteration, (List.length_filter_le _ _).trans h.retained⟩

theorem bounded_forwardState (state : SenderKeyState K) {n : Nat} (h : n < u32Max) :
    Bounded (state.forwardState (T := T) n) := by
  constructor
  · simp only [SenderKeyState.forwardState]
    exact h
  · simp only [SenderKeyState.forwardState, pruneSkipped, SortedMap.length_pruneTo]
    exact min_le_left _ _

/-- A trial of the search leaves a bounded state. -/
theorem bounded_of_firstOpened {state next : SenderKeyState K} (h : Bounded state)
    {ciphertext plaintext : T} {n : Nat}
    (hfound : firstOpened ciphertext (trials (T := T) state) = some (n, plaintext, next)) :
    Bounded next := by
  have htrial : ∀ list : List (Trial K), (∀ trial ∈ list, Bounded trial.next) →
      firstOpened ciphertext list = some (n, plaintext, next) → Bounded next := by
    intro list hall hlist
    induction list with
    | nil => cases hlist
    | cons trial rest ih =>
        rw [firstOpened] at hlist
        split at hlist
        · cases hlist
          exact hall trial List.mem_cons_self
        · exact ih (fun other hmem => hall other (List.mem_cons_of_mem _ hmem)) hlist
  refine htrial _ ?_ hfound
  intro trial hmem
  rcases List.mem_append.mp hmem with hmem | hmem
  · obtain ⟨entry, -, rfl⟩ := List.mem_map.mp hmem
    exact bounded_consumeState h entry.1
  · obtain ⟨n, hrange, rfl⟩ := List.mem_map.mp hmem
    obtain ⟨hle, hlt⟩ := List.mem_range'_1.mp hrange
    refine bounded_forwardState state ?_
    unfold windowSize at hlt
    omega

theorem bounded_receive {state : SenderKeyState K} (h : Bounded state)
    (delivery : ChainDelivery T) : Bounded (state.receive delivery).2 := by
  cases delivery with
  | positioned messageNumber ciphertext =>
      rw [NostrDoubleRatchet.SenderKeyState.receive]
      cases hplan : state.planDecrypt ⟨state.keyId, messageNumber.toNat, ciphertext⟩ with
      | error e => exact h
      | ok plan =>
          change Bounded plan.nextState
          obtain ⟨-, ⟨-, -, hnext⟩ | ⟨-, -, hmax, -, hnext⟩⟩ :=
            SenderKeyState.planDecrypt_eq_ok.mp hplan
          · rw [hnext]
            exact bounded_consumeState h _
          · rw [hnext]
            exact bounded_forwardState state hmax
  | blind ciphertext =>
      rw [NostrDoubleRatchet.SenderKeyState.receive]
      rw [planDecryptBlind_eq ciphertext h]
      cases hfound : firstOpened ciphertext (trials (T := T) state) with
      | none => exact h
      | some found =>
          obtain ⟨n, plaintext, next⟩ := found
          exact bounded_of_firstOpened h hfound

theorem receiveAll_eq {state : SenderKeyState K} (h : Bounded state)
    (deliveries : List (ChainDelivery T)) :
    receiveAll state deliveries = state.receiveAll deliveries := by
  induction deliveries generalizing state with
  | nil => rfl
  | cons delivery rest ih =>
      have hnext := ih (bounded_receive h delivery)
      rw [receiveAll, NostrDoubleRatchet.SenderKeyState.receiveAll, receive_eq h delivery]
      dsimp only
      rw [hnext]

/-- From every starting chain both clients give the same answers to the same deliveries and end
in the same state. -/
theorem clients_agree_on_chain (keyId iteration : UInt32) (chainKey : K)
    (deliveries : List (ChainDelivery T)) :
    ∃ start, create keyId.toNat chainKey iteration.toNat = .ok start ∧
      receiveAll start deliveries = (NostrDoubleRatchet.SenderKeyState.new keyId.toNat chainKey
        iteration.toNat).receiveAll deliveries := by
  have hkeyId : keyId.toNat ≤ u32Max := by
    have hlt := keyId.toNat_lt
    unfold u32Max
    omega
  have hiteration : iteration.toNat ≤ u32Max := by
    have hlt := iteration.toNat_lt
    unfold u32Max
    omega
  refine ⟨_, ?_, receiveAll_eq ⟨hiteration, Nat.zero_le _⟩ deliveries⟩
  rw [create, if_neg (by omega), if_neg (by omega)]

end TypeScript.SenderKeyState

end NostrDoubleRatchet
