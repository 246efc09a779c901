import Mathlib.Data.Prod.Lex
import NostrDoubleRatchet.Session.Spec

/-!
How the sending side of a session moves. A message moves the sending chain on by one key.
A received message leaves the sending chain alone, or starts a new one under a new root.
Where no key is derived from itself the position never returns, so a session never uses a
message key twice.
-/

namespace NostrDoubleRatchet

/-- What the order of keys relies on from HKDF: distinct derivations give distinct keys,
and a derived key ranks above the key it comes from. -/
structure DerivationLaws (K : Type) {T : Type} [Primitives K T] (rank : K → Nat) : Prop where
  hkdf_inj : ∀ {a b : K} {s t : Salt K} {i j : Nat},
    Primitives.hkdf a s i = Primitives.hkdf b t j → a = b ∧ s = t ∧ i = j
  hkdf_rank : ∀ (key : K) (salt : Salt K) (index : Nat),
    rank key < rank (Primitives.hkdf key salt index)

variable {K T : Type} [LinearOrder K] [Primitives K T]

namespace SessionState

/-- The key of the next message. -/
def messageKey (state : SessionState K) : Option K :=
  state.sendingChainKey.map (fun chainKey => (chainStep chainKey).2)

/-- The sending chain starts where the root of the state was derived. -/
def Rooted (state : SessionState K) : Prop :=
  ∀ chainKey, state.sendingChainKey = some chainKey → ∃ root agreement number,
    state.rootKey = (kdf2 root (.key agreement)).1 ∧
    chainKey = KeyChain.chainKey chainStep (kdf2 root (.key agreement)).2 number

/-- Where the state is in its sending ratchet. -/
def position (rank : K → Nat) (state : SessionState K) : Nat ×ₗ Nat :=
  toLex (rank state.rootKey, (state.sendingChainKey.map rank).getD 0)

/-- The sending side is the same. -/
def KeepsSending (state next : SessionState K) : Prop :=
  next.rootKey = state.rootKey ∧ next.sendingChainKey = state.sendingChainKey

/-- A ratchet step has started a new sending chain. -/
def Turned (state next : SessionState K) : Prop :=
  ∃ agreement agreement',
    next.rootKey = (kdf2 (kdf2 state.rootKey (.key agreement)).1 (.key agreement')).1 ∧
    next.sendingChainKey = some (kdf2 (kdf2 state.rootKey (.key agreement)).1 (.key agreement')).2

theorem KeepsSending.trans {a b c : SessionState K} (hab : a.KeepsSending b)
    (hbc : b.KeepsSending c) : a.KeepsSending c :=
  ⟨hbc.1.trans hab.1, hbc.2.trans hab.2⟩

end SessionState

/-! Sending. -/

/-- A planned message is encrypted under the next key of the sending chain, and moves the
chain on by one. -/
theorem planSend_sending {session : Session K} {bodyNonce headerNonce : K} {payload : T}
    {now : UnixSeconds} {plan : SendPlan K T}
    (h : session.planSend bodyNonce headerNonce payload now = .ok plan) :
    ∃ chainKey encrypted, session.state.sendingChainKey = some chainKey ∧
      Primitives.encryptToBytes (chainStep chainKey).2 bodyNonce payload = .ok encrypted ∧
      plan.envelope.ciphertext = Primitives.base64Encode K encrypted ∧
      plan.nextState = { session.state with
        sendingChainKey := some (chainStep chainKey).1
        sendingChainMessageNumber := u32Succ session.state.sendingChainMessageNumber } := by
  unfold Session.planSend at h
  split at h
  · cases h
  obtain ⟨⟨next, header, ciphertext⟩, hencrypt, h1⟩ := except_bind_eq_ok.mp h
  dsimp only at h1
  split at h1
  · cases h1
  obtain ⟨ourSecret, -, h2⟩ := except_bind_eq_ok.mp h1
  split at h2
  · cases h2
  obtain ⟨theirs, -, h3⟩ := except_bind_eq_ok.mp h2
  obtain ⟨encryptedHeader, -, h4⟩ := except_bind_eq_ok.mp h3
  cases h4
  unfold ratchetEncrypt at hencrypt
  split at hencrypt
  · cases hencrypt
  rename_i chainKey hchain
  obtain ⟨encrypted, hbody, hpure⟩ := except_bind_eq_ok.mp hencrypt
  cases hpure
  exact ⟨chainKey, encrypted, hchain, mapError_eq_ok.mp hbody, rfl, rfl⟩

/-- The body of a planned message is encrypted under the message key of its state. -/
theorem planSend_ciphertext {session : Session K} {bodyNonce headerNonce : K} {payload : T}
    {now : UnixSeconds} {plan : SendPlan K T}
    (h : session.planSend bodyNonce headerNonce payload now = .ok plan) :
    ∃ key encrypted, session.state.messageKey = some key ∧
      Primitives.encryptToBytes key bodyNonce payload = .ok encrypted ∧
      plan.envelope.ciphertext = Primitives.base64Encode K encrypted := by
  obtain ⟨chainKey, encrypted, hchain, hbody, hciphertext, -⟩ := planSend_sending h
  refine ⟨(chainStep chainKey).2, encrypted, ?_, hbody, hciphertext⟩
  rw [SessionState.messageKey, hchain]
  rfl

/-! Receiving. -/

private theorem skipMessageKeys_sending {state next : SessionState K} {number : Nat}
    {sender : DevicePubkey K} (h : skipMessageKeys state number sender = .ok next) :
    state.KeepsSending next := by
  unfold skipMessageKeys at h
  split at h
  · cases h
    exact ⟨rfl, rfl⟩
  split at h
  · cases h
  obtain ⟨⟨chainKey, number', entry⟩, -, hpure⟩ := except_bind_eq_ok.mp h
  cases hpure
  exact ⟨rfl, rfl⟩

private theorem trySkippedMessageKeys_sending {state next : SessionState K} {header : Header K}
    {ciphertext payload : T} {sender : DevicePubkey K}
    (h : trySkippedMessageKeys state header ciphertext sender = .ok (some (next, payload))) :
    state.KeepsSending next := by
  unfold trySkippedMessageKeys at h
  split at h
  · cases h
  split at h
  · cases h
  obtain ⟨plaintext, -, hpure⟩ := except_bind_eq_ok.mp h
  cases hpure
  exact ⟨rfl, rfl⟩

private theorem decryptFromChain_sending {state next : SessionState K} {header : Header K}
    {ciphertext payload : T} {sender : DevicePubkey K}
    (h : decryptFromChain state header ciphertext sender = .ok (next, payload)) :
    state.KeepsSending next := by
  unfold decryptFromChain at h
  split at h
  · cases h
  obtain ⟨skipped, hskip, h1⟩ := except_bind_eq_ok.mp h
  split at h1
  · cases h1
  obtain ⟨plaintext, -, hpure⟩ := except_bind_eq_ok.mp h1
  cases hpure
  have hkeeps := skipMessageKeys_sending hskip
  exact ⟨hkeeps.1, hkeeps.2⟩

theorem ratchetDecrypt_sending {state next : SessionState K} {header : Header K}
    {ciphertext payload : T} {sender : DevicePubkey K}
    (h : ratchetDecrypt state header ciphertext sender = .ok (next, payload)) :
    state.KeepsSending next := by
  unfold ratchetDecrypt at h
  obtain ⟨found, htry, h1⟩ := except_bind_eq_ok.mp h
  split at h1
  · cases h1
    exact trySkippedMessageKeys_sending htry
  · exact decryptFromChain_sending h1

private theorem ratchetStep_turned {state next : SessionState K} {rng rng' : Rng K}
    (h : ratchetStep state rng = (.ok next, rng')) : state.Turned next := by
  unfold ratchetStep at h
  obtain ⟨ourNext, r1, -, h1⟩ := RandM.bind_eq_ok.mp h
  cases htheirs : state.theirNextNostrPublicKey with
  | none =>
      rw [htheirs] at h1
      cases h1
  | some theirNext =>
  rw [htheirs] at h1
  obtain ⟨theirs, r2, -, h2⟩ := RandM.bind_eq_ok.mp h1
  obtain ⟨agreement, r3, -, h3⟩ := RandM.bind_eq_ok.mp h2
  dsimp only at h3
  obtain ⟨ourNextPrivateKey, r4, -, h4⟩ := RandM.bind_eq_ok.mp h3
  obtain ⟨ourNextPublicKey, r5, -, h5⟩ := RandM.bind_eq_ok.mp h4
  obtain ⟨ourNext2, r6, -, h6⟩ := RandM.bind_eq_ok.mp h5
  obtain ⟨agreement', r7, -, h7⟩ := RandM.bind_eq_ok.mp h6
  cases h7
  exact ⟨agreement, agreement', rfl, rfl⟩

private theorem ratchetForHeader_turned {state next : SessionState K} {header : Header K}
    {rng rng' : Rng K} (h : Session.ratchetForHeader state header rng = (.ok next, rng')) :
    state.Turned next := by
  unfold Session.ratchetForHeader at h
  generalize hmoved : (if state.theirNextNostrPublicKey ≠ some header.nextPublicKey then
      { state with
        theirCurrentNostrPublicKey := state.theirNextNostrPublicKey
        theirNextNostrPublicKey := some header.nextPublicKey }
    else state) = moved at h
  have hmovedRoot : moved.rootKey = state.rootKey := by
    rw [← hmoved]
    split
    · rfl
    · rfl
  obtain ⟨retired, mid, hretired, hstep⟩ := RandM.bind_eq_ok.mp h
  obtain ⟨hskipped, -⟩ := RandM.lift_eq_ok.mp hretired
  have hroot : retired.rootKey = state.rootKey := by
    split at hskipped
    · split at hskipped
      · cases hskipped
      · exact (skipMessageKeys_sending hskipped).1.trans hmovedRoot
    · cases hskipped
      exact hmovedRoot
  obtain ⟨agreement, agreement', hnext, hchain⟩ := ratchetStep_turned hstep
  rw [hroot] at hnext hchain
  exact ⟨agreement, agreement', hnext, hchain⟩

/-- A received message leaves the sending chain alone or starts a new one. -/
theorem planReceive_sending {session : Session K} {envelope : MessageEnvelope K T}
    {plan : ReceivePlan K T} {rng rng' : Rng K}
    (h : session.planReceive envelope rng = (.ok plan, rng')) :
    session.state.KeepsSending plan.nextState ∨ session.state.Turned plan.nextState := by
  unfold Session.planReceive at h
  split at h
  · cases h
  obtain ⟨⟨header, target⟩, r1, hheader, h1⟩ := RandM.bind_eq_ok.mp h
  dsimp only at h1
  obtain ⟨state, r2, hstate, h2⟩ := RandM.bind_eq_ok.mp h1
  obtain ⟨⟨nextState, payload⟩, r3, hdecrypt, h3⟩ := RandM.bind_eq_ok.mp h2
  obtain ⟨hopened, -⟩ := RandM.lift_eq_ok.mp hdecrypt
  have hkeeps := ratchetDecrypt_sending hopened
  cases h3
  split at hstate
  · obtain ⟨agreement, agreement', hroot, hchain⟩ := ratchetForHeader_turned hstate
    exact Or.inr ⟨agreement, agreement', hkeeps.1.trans hroot, hkeeps.2.trans hchain⟩
  · cases hstate
    exact Or.inl hkeeps

/-! Positions. -/

section

variable {rank : K → Nat}

theorem planSend_position (hlaws : DerivationLaws K rank) {session : Session K}
    {bodyNonce headerNonce : K} {payload : T} {now : UnixSeconds} {plan : SendPlan K T}
    (h : session.planSend bodyNonce headerNonce payload now = .ok plan) :
    session.state.position rank < plan.nextState.position rank := by
  obtain ⟨chainKey, -, hchain, -, -, hnext⟩ := planSend_sending h
  unfold SessionState.position
  rw [hnext, hchain]
  refine Prod.Lex.toLex_lt_toLex.mpr (Or.inr ⟨rfl, ?_⟩)
  exact hlaws.hkdf_rank chainKey _ _

theorem SessionState.Turned.position_lt (hlaws : DerivationLaws K rank)
    {state next : SessionState K} (h : state.Turned next) :
    state.position rank < next.position rank := by
  obtain ⟨agreement, agreement', hroot, -⟩ := h
  refine Prod.Lex.toLex_lt_toLex.mpr (Or.inl ?_)
  dsimp only
  rw [hroot]
  exact (hlaws.hkdf_rank _ _ _).trans (hlaws.hkdf_rank _ _ _)

theorem SessionState.KeepsSending.position_eq {state next : SessionState K}
    (h : state.KeepsSending next) : next.position rank = state.position rank := by
  unfold SessionState.position
  rw [h.1, h.2]

theorem planReceive_position (hlaws : DerivationLaws K rank) {session : Session K}
    {envelope : MessageEnvelope K T} {plan : ReceivePlan K T} {rng rng' : Rng K}
    (h : session.planReceive envelope rng = (.ok plan, rng')) :
    session.state.position rank ≤ plan.nextState.position rank := by
  rcases planReceive_sending h with hkeeps | hturned
  · exact le_of_eq hkeeps.position_eq.symm
  · exact le_of_lt (hturned.position_lt hlaws)

end

/-! Rooted states. -/

theorem planSend_rooted {session : Session K} {bodyNonce headerNonce : K} {payload : T}
    {now : UnixSeconds} {plan : SendPlan K T} (hrooted : session.state.Rooted)
    (h : session.planSend bodyNonce headerNonce payload now = .ok plan) :
    plan.nextState.Rooted := by
  obtain ⟨chainKey, -, hchain, -, -, hnext⟩ := planSend_sending h
  obtain ⟨root, agreement, number, hroot, rfl⟩ := hrooted chainKey hchain
  rw [hnext]
  intro next hsome
  cases hsome
  exact ⟨root, agreement, number + 1, hroot, (KeyChain.chainKey_succ _ _ _).symm⟩

theorem planReceive_rooted {session : Session K} {envelope : MessageEnvelope K T}
    {plan : ReceivePlan K T} {rng rng' : Rng K} (hrooted : session.state.Rooted)
    (h : session.planReceive envelope rng = (.ok plan, rng')) : plan.nextState.Rooted := by
  rcases planReceive_sending h with hkeeps | ⟨agreement, agreement', hroot, hchain⟩
  · intro chainKey hsome
    rw [hkeeps.1]
    exact hrooted chainKey (hkeeps.2.symm.trans hsome)
  · intro chainKey hsome
    rw [hchain] at hsome
    cases hsome
    exact ⟨_, agreement', 0, hroot, rfl⟩

theorem initWithContext_rooted {theirs : DevicePubkey K} {ours shared : K} {isInitiator : Bool}
    {session : Session K} {rng rng' : Rng K}
    (h : Session.initWithContext theirs ours isInitiator shared rng = (.ok session, rng')) :
    session.state.Rooted := by
  unfold Session.initWithContext at h
  obtain ⟨⟨peer, secret⟩, r1, -, h1⟩ := RandM.bind_eq_ok.mp h
  dsimp only at h1
  obtain ⟨ourSecret, r2, -, h2⟩ := RandM.bind_eq_ok.mp h1
  obtain ⟨ourNextPrivateKey, r3, -, h3⟩ := RandM.bind_eq_ok.mp h2
  obtain ⟨ourNextSecret, r4, -, h4⟩ := RandM.bind_eq_ok.mp h3
  split at h4
  · obtain ⟨their, r5, -, h5⟩ := RandM.bind_eq_ok.mp h4
    obtain ⟨agreement, r6, -, h6⟩ := RandM.bind_eq_ok.mp h5
    cases h6
    intro chainKey hsome
    cases hsome
    exact ⟨shared, agreement, 0, rfl, rfl⟩
  · cases h4
    intro chainKey hsome
    cases hsome

omit [LinearOrder K] in
private theorem chainKey_number_inj {rank : K → Nat} (hlaws : DerivationLaws K rank)
    {root root' agreement agreement' : K} {number number' : Nat}
    (h : KeyChain.chainKey chainStep (kdf2 root (.key agreement)).2 number =
      KeyChain.chainKey chainStep (kdf2 root' (.key agreement')).2 number') :
    root = root' ∧ agreement = agreement' := by
  induction number generalizing number' with
  | zero =>
      cases number' with
      | zero =>
          obtain ⟨hroot, hsalt, -⟩ := hlaws.hkdf_inj h
          exact ⟨hroot, Salt.key.inj hsalt⟩
      | succ number' =>
          rw [KeyChain.chainKey_succ] at h
          obtain ⟨-, hsalt, -⟩ := hlaws.hkdf_inj h
          cases hsalt
  | succ number ih =>
      rw [KeyChain.chainKey_succ] at h
      cases number' with
      | zero =>
          obtain ⟨-, hsalt, -⟩ := hlaws.hkdf_inj h
          cases hsalt
      | succ number' =>
          rw [KeyChain.chainKey_succ] at h
          exact ih (hlaws.hkdf_inj h).1

/-- A message key tells the position it is used at. -/
theorem SessionState.Rooted.position_eq {rank : K → Nat} (hlaws : DerivationLaws K rank)
    {a b : SessionState K} (ha : a.Rooted) (hb : b.Rooted) {key : K}
    (hkey : a.messageKey = some key) (hkey' : b.messageKey = some key) :
    a.position rank = b.position rank := by
  obtain ⟨chainKey, hchain, hstep⟩ := Option.map_eq_some_iff.mp hkey
  obtain ⟨chainKey', hchain', hstep'⟩ := Option.map_eq_some_iff.mp hkey'
  have hsame : chainKey = chainKey' := (hlaws.hkdf_inj (hstep.trans hstep'.symm)).1
  subst hsame
  obtain ⟨root, agreement, number, hroot, hnumber⟩ := ha chainKey hchain
  obtain ⟨root', agreement', number', hroot', hnumber'⟩ := hb chainKey hchain'
  obtain ⟨rfl, rfl⟩ := chainKey_number_inj hlaws (hnumber.symm.trans hnumber')
  unfold SessionState.position
  rw [hroot, hroot', hchain, hchain']

end NostrDoubleRatchet
