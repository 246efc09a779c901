import NostrDoubleRatchet.Session.KeySchedule
import NostrDoubleRatchet.Session.Spec

/-!
One party of an honest exchange. A party at phase `q` sends on chain `q - 1`,
receives on chain `q - 2` and moves to phase `q + 2` when a message of chain `q`
reaches it. `AtPhase` says which keys of the common schedule its state holds, and
`HonestEnvelope` what a message of the schedule looks like.
-/

namespace NostrDoubleRatchet

open KeySchedule

variable {K T : Type} [LinearOrder K] [Primitives K T]

def keyPair (secrets : Nat → K) (i : Nat) : SerializableKeyPair K :=
  ⟨pubkey secrets i, secrets i⟩

/-- The index `d` steps below `q`, when there is one. -/
def back (q d : Nat) : Option Nat := if d ≤ q then some (q - d) else none

/-- Where a party stands: its phase, the messages sent on its sending chain and
on the one before, and the next position of its receiving chain. -/
structure Position where
  phase : Nat
  sent : Nat
  previous : Nat
  received : Nat

structure AtPhase (secrets : Nat → K) (shared : K) (pos : Position)
    (state : SessionState K) : Prop where
  version : state.metadataPrivacyVersion = METADATA_PRIVACY_VERSION
  rootKey : state.rootKey = root secrets shared pos.phase
  theirCurrent : state.theirCurrentNostrPublicKey = (back pos.phase 2).map (pubkey secrets)
  theirNext : state.theirNextNostrPublicKey = some (pubkey secrets pos.phase)
  ourPrevious : state.ourPreviousNostrKey = (back pos.phase 3).map (keyPair secrets)
  ourCurrent : state.ourCurrentNostrKey = (back pos.phase 1).map (keyPair secrets)
  ourNext : state.ourNextNostrKey = keyPair secrets (pos.phase + 1)
  receivingChain : state.receivingChainKey =
    (back pos.phase 2).map (fun c => chainKey secrets shared c pos.received)
  sendingChain : state.sendingChainKey =
    (back pos.phase 1).map (fun c => chainKey secrets shared c pos.sent)
  sendingNumber : state.sendingChainMessageNumber = pos.sent % 2 ^ 32
  receivingNumber : state.receivingChainMessageNumber = pos.received % 2 ^ 32
  previousCount : state.previousSendingChainMessageCount = pos.previous % 2 ^ 32

def honestHeader (secrets : Nat → K) (c p previous : Nat) : Header K where
  number := p % 2 ^ 32
  previousChainLength := previous % 2 ^ 32
  nextPublicKey := pubkey secrets (c + 2)

/-- `envelope` is message `p` of chain `c`; the chain its sender used before had
`previous` messages. -/
structure HonestEnvelope (secrets : Nat → K) (shared : K) (c p previous : Nat) (payload : T)
    (envelope : MessageEnvelope K T) : Prop where
  version : envelope.metadataPrivacyVersion = METADATA_PRIVACY_VERSION
  sender : envelope.sender = pubkey secrets c
  header : ∃ nonce, Primitives.nip44Encrypt (secrets c)
    (Primitives.publicKey (secrets (c + 1))) nonce
    (Primitives.headerToJson (honestHeader secrets c p previous)) =
      .ok envelope.encryptedHeader
  body : ∃ nonce bytes, Primitives.encryptToBytes (messageKey secrets shared c p) nonce payload =
      .ok bytes ∧ envelope.ciphertext = Primitives.base64Encode K bytes

theorem back_eq_some {q d i : Nat} : back q d = some i ↔ i + d = q := by
  rw [back]
  split
  · rw [Option.some.injEq]
    omega
  · simp only [reduceCtorEq, false_iff]
    omega

theorem back_add (q d k : Nat) : back (q + k) (d + k) = back q d := by
  rw [back, back, Nat.add_sub_add_right]
  by_cases hle : d ≤ q
  · rw [if_pos hle, if_pos (by omega)]
  · rw [if_neg hle, if_neg (by omega)]

theorem map_back_congr {α : Type} {f g : Nat → α} {q d : Nat}
    (h : ∀ i, i + d = q → f i = g i) : (back q d).map f = (back q d).map g := by
  cases hback : back q d with
  | none => rfl
  | some i => rw [Option.map_some, Option.map_some, h i (back_eq_some.mp hback)]

section Congruence

variable {secrets secrets' : Nat → K} {shared : K} {n : Nat}
  (hagree : ∀ i < n, secrets i = secrets' i)

include hagree

omit [LinearOrder K] in
theorem keyPair_congr {i : Nat} (hi : i < n) : keyPair secrets i = keyPair secrets' i := by
  rw [keyPair, keyPair, pubkey_congr hagree hi, hagree i hi]

/-- A party's view depends on the secrets drawn so far. -/
theorem AtPhase.congr {pos : Position} {state : SessionState K}
    (h : AtPhase secrets shared pos state) (hn : pos.phase + 1 < n) :
    AtPhase secrets' shared pos state where
  version := h.version
  rootKey := h.rootKey.trans (root_congr hagree shared hn)
  theirCurrent := h.theirCurrent.trans
    (map_back_congr (fun i hi => pubkey_congr hagree (by omega)))
  theirNext := h.theirNext.trans (congrArg some (pubkey_congr hagree (by omega)))
  ourPrevious := h.ourPrevious.trans
    (map_back_congr (fun i hi => keyPair_congr hagree (by omega)))
  ourCurrent := h.ourCurrent.trans
    (map_back_congr (fun i hi => keyPair_congr hagree (by omega)))
  ourNext := h.ourNext.trans (keyPair_congr hagree hn)
  receivingChain := h.receivingChain.trans
    (map_back_congr (fun i hi => chainKey_congr hagree shared (by omega)))
  sendingChain := h.sendingChain.trans
    (map_back_congr (fun i hi => chainKey_congr hagree shared (by omega)))
  sendingNumber := h.sendingNumber
  receivingNumber := h.receivingNumber
  previousCount := h.previousCount

omit [LinearOrder K] in
theorem HonestEnvelope.congr {c p previous : Nat} {payload : T}
    {envelope : MessageEnvelope K T}
    (h : HonestEnvelope secrets shared c p previous payload envelope) (hn : c + 2 < n) :
    HonestEnvelope secrets' shared c p previous payload envelope where
  version := h.version
  sender := h.sender.trans (pubkey_congr hagree (by omega))
  header := by
    obtain ⟨nonce, hheader⟩ := h.header
    refine ⟨nonce, ?_⟩
    rw [honestHeader, ← pubkey_congr hagree hn, ← hagree c (by omega),
      ← hagree (c + 1) (by omega)]
    exact hheader
  body := by
    rw [← messageKey_congr hagree shared hn]
    exact h.body

end Congruence

variable {secrets : Nat → K} {shared : K} {n : Nat}

omit [LinearOrder K] in
theorem secretKeyFromBytes_eq_ok (hlaws : SymbolicLaws K) {bytes secret : K}
    (h : secretKeyFromBytes bytes = .ok secret) : secret = bytes :=
  hlaws.secretKey_eq (mapError_eq_ok.mp h)

omit [LinearOrder K] in
theorem secretKeyFromBytes_valid {secret : K} (h : ValidSecret secret) :
    secretKeyFromBytes secret = .ok secret :=
  mapError_eq_ok.mpr h

omit [LinearOrder K] in
theorem toNostr_pubkey (hlaws : SymbolicLaws K) (hdist : Distinct secrets n) {i : Nat}
    (hi : i < n) : (pubkey secrets i).toNostr = .ok (Primitives.publicKey (secrets i)) :=
  mapError_eq_ok.mpr (hlaws.publicKey_valid (hdist.valid i hi))

/-- Sending adds one message of the sender's chain. -/
theorem planSend_eq_ok (hlaws : SymbolicLaws K) (hdist : Distinct secrets n)
    {session : Session K} {pos : Position} (hat : AtPhase secrets shared pos session.state)
    (hn : pos.phase + 1 < n) {bodyNonce headerNonce : K} {payload : T} {now : UnixSeconds}
    {plan : SendPlan K T}
    (h : session.planSend bodyNonce headerNonce payload now = .ok plan) :
    ∃ c, c + 1 = pos.phase ∧
      HonestEnvelope secrets shared c pos.sent pos.previous payload plan.envelope ∧
      AtPhase secrets shared { pos with sent := pos.sent + 1 } plan.nextState ∧
      plan.nextState.skippedKeys = session.state.skippedKeys ∧ plan.payload = payload := by
  rw [Session.planSend] at h
  split at h
  · cases h
  · rw [except_bind_eq_ok] at h
    obtain ⟨⟨nextState, header, ciphertext⟩, hencrypt, h⟩ := h
    simp only [hat.ourCurrent, hat.theirNext] at h
    cases hback : back pos.phase 1 with
    | none =>
        rw [hback] at h
        cases h
    | some c =>
        rw [hback] at h
        have hc : c + 1 = pos.phase := back_eq_some.mp hback
        simp only [Option.map_some] at h
        rw [except_bind_eq_ok] at h
        obtain ⟨secret, hsecret, h⟩ := h
        obtain rfl := secretKeyFromBytes_eq_ok hlaws hsecret
        rw [toNostr_pubkey hlaws hdist (by omega)] at h
        change (Primitives.nip44Encrypt _ _ _ _).mapError _ >>= _ = _ at h
        rw [except_bind_eq_ok] at h
        obtain ⟨encryptedHeader, hheader, h⟩ := h
        cases h
        rw [ratchetEncrypt, hat.sendingChain, hback] at hencrypt
        change (Primitives.encryptToBytes _ _ _).mapError _ >>= _ = _ at hencrypt
        rw [except_bind_eq_ok] at hencrypt
        obtain ⟨bytes, hbytes, hencrypt⟩ := hencrypt
        cases hencrypt
        refine ⟨c, hc, ⟨rfl, rfl, ⟨headerNonce, ?_⟩, ⟨bodyNonce, bytes, ?_, rfl⟩⟩, ?_, rfl, rfl⟩
        · have heq := mapError_eq_ok.mp hheader
          simp only [hat.sendingNumber, hat.previousCount, hat.ourNext, ← hc] at heq
          exact heq
        · exact mapError_eq_ok.mp hbytes
        · have hsend : (back pos.phase 1).map (fun c => chainKey secrets shared c (pos.sent + 1)) =
              some (chainStep (chainKey secrets shared c pos.sent)).1 := by
            rw [hback, Option.map_some, chainKey, KeyChain.chainKey_succ]
            rfl
          exact { hat with
            sendingChain := hsend.symm
            sendingNumber := by
              change u32Succ session.state.sendingChainMessageNumber = _
              rw [hat.sendingNumber, u32Succ, Nat.mod_add_mod] }

/-- A header is opened by the pair it was sealed to and by no other. -/
theorem tryHeaderKey_honest (hlaws : SymbolicLaws K) (hdist : Distinct secrets n)
    {c p previous : Nat} {payload : T} {envelope : MessageEnvelope K T}
    (henv : HonestEnvelope secrets shared c p previous payload envelope) (hc : c + 1 < n)
    {i : Nat} (hi : i < n) :
    tryHeaderKey (secrets i) envelope.encryptedHeader (pubkey secrets c) =
      .ok (if i = c + 1 then some (honestHeader secrets c p previous) else none) := by
  obtain ⟨nonce, hheader⟩ := henv.header
  obtain ⟨key, hkey, hdecrypt⟩ := hlaws.nip44Decrypt_iff hheader
  have hagreed := conversationKey_agreed hlaws (hdist.valid c (by omega)) (hdist.valid _ hc)
  obtain rfl : key = agreed (secrets c) (secrets (c + 1)) :=
    Except.ok.inj (hkey.symm.trans hagreed)
  rw [tryHeaderKey, secretKeyFromBytes_valid (hdist.valid i hi)]
  rw [toNostr_pubkey hlaws hdist (by omega)]
  dsimp only [bind, Except.bind]
  have hiff := conversationKey_eq_iff hlaws hdist hi (by omega : c < n) (by omega : c < n) hc
  by_cases hic : i = c + 1
  · have hok := (hdecrypt (secrets i) (Primitives.publicKey (secrets c)) _).mpr
      ⟨hiff.mpr (Or.inr ⟨hic, rfl⟩), rfl⟩
    rw [hok, if_pos hic]
    simp only
    rw [hlaws.header_roundTrip]
    rfl
  · rw [if_neg hic]
    cases hnip : Primitives.nip44Decrypt (secrets i) (Primitives.publicKey (secrets c))
        envelope.encryptedHeader with
    | error e => rfl
    | ok decrypted =>
        have hcase := hiff.mp ((hdecrypt _ _ _).mp hnip).1
        omega

theorem tryOptionalHeaderKey_honest (hlaws : SymbolicLaws K) (hdist : Distinct secrets n)
    {c p previous : Nat} {payload : T} {envelope : MessageEnvelope K T}
    (henv : HonestEnvelope secrets shared c p previous payload envelope) (hc : c + 1 < n)
    {q d : Nat} (hq : q < n) :
    tryOptionalHeaderKey ((back q d).map (keyPair secrets)) envelope.encryptedHeader
        (pubkey secrets c) =
      .ok (if c + 1 + d = q then some (honestHeader secrets c p previous) else none) := by
  cases hback : back q d with
  | none =>
      have hne : ¬ c + 1 + d = q := by
        intro heq
        rw [back_eq_some.mpr heq] at hback
        cases hback
      rw [if_neg hne]
      rfl
  | some i =>
      have hi : i + d = q := back_eq_some.mp hback
      change tryHeaderKey (secrets i) _ _ = _
      rw [tryHeaderKey_honest hlaws hdist henv hc (by omega)]
      by_cases heq : c + 1 + d = q
      · rw [if_pos heq, if_pos (by omega)]
      · rw [if_neg heq, if_neg (by omega)]

/-- The pair that opens a header tells the message's chain apart: the current
pair opens the receiving chain, the next pair the chain after it and the
previous pair the chain before it. -/
theorem decryptHeader_eq_ok (hlaws : SymbolicLaws K) (hdist : Distinct secrets n)
    {state : SessionState K} {pos : Position} (hat : AtPhase secrets shared pos state)
    (hn : pos.phase + 1 < n) {c p previous : Nat} {payload : T}
    {envelope : MessageEnvelope K T}
    (henv : HonestEnvelope secrets shared c p previous payload envelope) (hc : c + 1 < n)
    {header : Header K} {target : HeaderDecryptionTarget} :
    decryptHeader state envelope.encryptedHeader (pubkey secrets c) = .ok (header, target) ↔
      header = honestHeader secrets c p previous ∧
        ((c + 2 = pos.phase ∧ target = .current) ∨ (c = pos.phase ∧ target = .next) ∨
          (c + 4 = pos.phase ∧ target = .previous)) := by
  rw [decryptHeader, hat.ourCurrent, hat.ourNext, hat.ourPrevious,
    tryOptionalHeaderKey_honest hlaws hdist henv hc (by omega)]
  by_cases h1 : c + 1 + 1 = pos.phase
  · rw [if_pos h1]
    change Except.ok (_, _) = Except.ok (_, _) ↔ _
    simp only [Except.ok.injEq, Prod.mk.injEq]
    constructor
    · rintro ⟨rfl, rfl⟩
      exact ⟨rfl, Or.inl ⟨h1, rfl⟩⟩
    · rintro ⟨rfl, ⟨-, rfl⟩ | ⟨h, -⟩ | ⟨h, -⟩⟩
      · exact ⟨rfl, rfl⟩
      · omega
      · omega
  rw [if_neg h1]
  change tryHeaderKey (secrets (pos.phase + 1)) _ _ >>= _ = _ ↔ _
  rw [tryHeaderKey_honest hlaws hdist henv hc hn]
  by_cases h2 : pos.phase + 1 = c + 1
  · rw [if_pos h2]
    change Except.ok (_, _) = Except.ok (_, _) ↔ _
    simp only [Except.ok.injEq, Prod.mk.injEq]
    constructor
    · rintro ⟨rfl, rfl⟩
      exact ⟨rfl, Or.inr (Or.inl ⟨by omega, rfl⟩)⟩
    · rintro ⟨rfl, ⟨h, -⟩ | ⟨-, rfl⟩ | ⟨h, -⟩⟩
      · omega
      · exact ⟨rfl, rfl⟩
      · omega
  rw [if_neg h2]
  change tryOptionalHeaderKey ((back pos.phase 3).map (keyPair secrets)) _ _ >>= _ = _ ↔ _
  rw [tryOptionalHeaderKey_honest hlaws hdist henv hc (by omega)]
  by_cases h3 : c + 1 + 3 = pos.phase
  · rw [if_pos h3]
    change Except.ok (_, _) = Except.ok (_, _) ↔ _
    simp only [Except.ok.injEq, Prod.mk.injEq]
    constructor
    · rintro ⟨rfl, rfl⟩
      exact ⟨rfl, Or.inr (Or.inr ⟨h3, rfl⟩)⟩
    · rintro ⟨rfl, ⟨h, -⟩ | ⟨h, -⟩ | ⟨-, rfl⟩⟩
      · omega
      · omega
      · exact ⟨rfl, rfl⟩
  · rw [if_neg h3]
    constructor
    · intro h
      cases h
    · rintro ⟨-, ⟨h, -⟩ | ⟨h, -⟩ | ⟨h, -⟩⟩
      · omega
      · omega
      · omega

/-- The schedule once `secret` is drawn as pair `i`. -/
def draw (secrets : Nat → K) (i : Nat) (secret : K) : Nat → K :=
  Function.update secrets i secret

omit [LinearOrder K] [Primitives K T] in
theorem draw_self (secrets : Nat → K) (i : Nat) (secret : K) :
    draw secrets i secret i = secret := by
  rw [draw, Function.update_self]

omit [LinearOrder K] [Primitives K T] in
theorem draw_of_lt (secrets : Nat → K) {i j : Nat} (secret : K) (h : j < i) :
    secrets j = draw secrets i secret j := by
  rw [draw, Function.update_of_ne (by omega)]

private theorem back_add_two (q : Nat) : back (q + 2) 2 = some q :=
  back_eq_some.mpr rfl

/-- A ratchet step takes a party from phase `q` to phase `q + 2`. -/
theorem ratchetStep_honest (hlaws : SymbolicLaws K) (hdist : Distinct secrets n)
    (shared : K) (state : SessionState K) {q : Nat} (sent : Nat) {rng : Rng K} (hn : q + 2 < n)
    (hfresh : ValidSecret rng.secretKeys.head)
    (hversion : state.metadataPrivacyVersion = METADATA_PRIVACY_VERSION)
    (hroot : state.rootKey = root secrets shared q)
    (htheirCurrent : state.theirCurrentNostrPublicKey = some (pubkey secrets q))
    (htheirNext : state.theirNextNostrPublicKey = some (pubkey secrets (q + 2)))
    (hourCurrent : state.ourCurrentNostrKey = (back q 1).map (keyPair secrets))
    (hourNext : state.ourNextNostrKey = keyPair secrets (q + 1))
    (hsent : state.sendingChainMessageNumber = sent % 2 ^ 32) :
    ∃ next, ratchetStep state rng =
        (.ok next, { rng with secretKeys := rng.secretKeys.tail }) ∧
      AtPhase (draw secrets (q + 3) rng.secretKeys.head) shared ⟨q + 2, 0, sent, 0⟩ next ∧
      next.skippedKeys = state.skippedKeys := by
  have hagree : ∀ i < q + 3, secrets i = draw secrets (q + 3) rng.secretKeys.head i :=
    fun i hi => draw_of_lt secrets rng.secretKeys.head hi
  have hvalid1 := hdist.valid (q + 1) (by omega)
  have hvalid2 := hdist.valid (q + 2) hn
  have hkey1 : deriveConversationKey (secrets (q + 1))
      (Primitives.publicKey (secrets (q + 2))) = .ok (agreement secrets q) := by
    rw [deriveConversationKey, mapError_eq_ok, agreement, agreed_comm hlaws hvalid2 hvalid1]
    exact conversationKey_agreed hlaws hvalid1 hvalid2
  have hkey2 : deriveConversationKey rng.secretKeys.head
      (Primitives.publicKey (secrets (q + 2))) =
        .ok (agreement (draw secrets (q + 3) rng.secretKeys.head) (q + 1)) := by
    rw [deriveConversationKey, mapError_eq_ok, agreement, draw_self, ← hagree (q + 2) (by omega)]
    exact conversationKey_agreed hlaws hfresh hvalid2
  refine ⟨{ state with
    previousSendingChainMessageCount := state.sendingChainMessageNumber
    sendingChainMessageNumber := 0
    receivingChainMessageNumber := 0
    receivingChainKey := some (kdf2 state.rootKey (.key (agreement secrets q))).2
    ourPreviousNostrKey := state.ourCurrentNostrKey
    ourCurrentNostrKey := some state.ourNextNostrKey
    ourNextNostrKey := ⟨⟨Primitives.publicKey rng.secretKeys.head⟩, rng.secretKeys.head⟩
    rootKey := (kdf2 (kdf2 state.rootKey (.key (agreement secrets q))).1
      (.key (agreement (draw secrets (q + 3) rng.secretKeys.head) (q + 1)))).1
    sendingChainKey := some (kdf2 (kdf2 state.rootKey (.key (agreement secrets q))).1
      (.key (agreement (draw secrets (q + 3) rng.secretKeys.head) (q + 1)))).2 }, ?_, ?_, rfl⟩
  · have hsecret : secretKeyFromBytes state.ourNextNostrKey.privateKey =
        .ok (secrets (q + 1)) := by
      rw [hourNext]
      exact secretKeyFromBytes_valid hvalid1
    have hpublic : devicePubkeyFromSecretBytes rng.secretKeys.head =
        .ok ⟨Primitives.publicKey rng.secretKeys.head⟩ := by
      rw [devicePubkeyFromSecretBytes, secretKeyFromBytes_valid hfresh]
      rfl
    rw [ratchetStep, RandM.bind_lift_of_ok hsecret]
    simp only [htheirNext]
    rw [RandM.bind_lift_of_ok (toNostr_pubkey hlaws hdist hn), RandM.bind_lift_of_ok hkey1]
    refine RandM.bind_eq_ok.mpr ⟨_, _, rfl, ?_⟩
    rw [RandM.bind_lift_of_ok hpublic,
      RandM.bind_lift_of_ok (secretKeyFromBytes_valid hfresh), RandM.bind_lift_of_ok hkey2]
    rfl
  · have hstart : ∀ c ≤ q, chainStart secrets shared c =
        chainStart (draw secrets (q + 3) rng.secretKeys.head) shared c :=
      fun c hc => chainStart_congr hagree shared (by omega)
    have hrootNext : (kdf2 state.rootKey (.key (agreement secrets q))).1 =
        root (draw secrets (q + 3) rng.secretKeys.head) shared (q + 1) := by
      rw [hroot, root, root_congr hagree shared (by omega : q + 1 < q + 3),
        agreement_congr hagree (by omega)]
    exact {
      version := hversion
      rootKey := by
        change (kdf2 _ _).1 = _
        rw [hrootNext]
        rfl
      theirCurrent := by
        rw [back_add_two]
        exact htheirCurrent.trans (congrArg some (pubkey_congr hagree (by omega)))
      theirNext := htheirNext.trans (congrArg some (pubkey_congr hagree (by omega)))
      ourPrevious := by
        change state.ourCurrentNostrKey = _
        rw [hourCurrent, ← back_add q 1 2]
        exact map_back_congr (fun i hi => keyPair_congr hagree (by omega))
      ourCurrent := by
        change some state.ourNextNostrKey = _
        rw [hourNext, back_eq_some.mpr (rfl : q + 1 + 1 = q + 2), Option.map_some,
          keyPair_congr hagree (by omega : q + 1 < q + 3)]
      ourNext := by
        rw [keyPair, pubkey, draw_self]
      receivingChain := by
        rw [back_add_two, Option.map_some, hroot]
        exact congrArg some (hstart q le_rfl)
      sendingChain := by
        rw [back_eq_some.mpr (rfl : q + 1 + 1 = q + 2), Option.map_some, hrootNext]
        rfl
      sendingNumber := rfl
      receivingNumber := rfl
      previousCount := hsent }

/-- The chain a ratchet step retires can be skipped to its announced length. -/
def RetirementGap (pos : Position) (previous : Nat) : Prop :=
  2 ≤ pos.phase → previous % 2 ^ 32 - pos.received % 2 ^ 32 ≤ MAX_SKIP

/-- The retained keys once the receiving chain is skipped to its length. -/
def retiredKeys (secrets : Nat → K) (shared : K) (pos : Position) (previous : Nat)
    (state : SessionState K) : SortedMap (DevicePubkey K) (SkippedKeysEntry K) :=
  match back pos.phase 2 with
  | none => state.skippedKeys
  | some c => (state.skipTo (chainKey secrets shared c pos.received) (previous % 2 ^ 32)
      (pubkey secrets c)).skippedKeys

/-- The state `plan_receive` retires the receiving chain in. -/
private def movedState (secrets : Nat → K) (q : Nat) (state : SessionState K) :
    SessionState K :=
  { state with
    theirCurrentNostrPublicKey := some (pubkey secrets q)
    theirNextNostrPublicKey := some (pubkey secrets (q + 2)) }

private def retire (secrets : Nat → K) (pos : Position) (previous : Nat)
    (state : SessionState K) : Except Error (SessionState K) :=
  match back pos.phase 2 with
  | none => .ok (movedState secrets pos.phase state)
  | some c => skipMessageKeys (movedState secrets pos.phase state) (previous % 2 ^ 32)
      (pubkey secrets c)

private theorem ratchetForHeader_eq (hdist : Distinct secrets n) {state : SessionState K}
    {pos : Position} (hat : AtPhase secrets shared pos state) (hn : pos.phase + 2 < n)
    (p previous : Nat) :
    Session.ratchetForHeader state (honestHeader secrets pos.phase p previous) =
      (do
        let retired ← retire secrets pos previous state
        ratchetStep retired) := by
  have hne : state.theirNextNostrPublicKey ≠
      some (honestHeader secrets pos.phase p previous).nextPublicKey := by
    rw [hat.theirNext]
    intro heq
    have := hdist.inj _ _ (by omega) hn (Option.some.inj heq)
    omega
  have hmoved : (if state.theirNextNostrPublicKey ≠
      some (honestHeader secrets pos.phase p previous).nextPublicKey then
        { state with
          theirCurrentNostrPublicKey := state.theirNextNostrPublicKey
          theirNextNostrPublicKey :=
            some (honestHeader secrets pos.phase p previous).nextPublicKey }
      else state) = movedState secrets pos.phase state := by
    rw [if_pos hne, hat.theirNext]
    rfl
  rw [Session.ratchetForHeader]
  simp only [hmoved]
  have hchain : (movedState secrets pos.phase state).receivingChainKey =
      (back pos.phase 2).map (fun c => chainKey secrets shared c pos.received) :=
    hat.receivingChain
  rw [hchain, hat.theirCurrent, retire]
  cases back pos.phase 2 with
  | none => rfl
  | some c => rfl

private theorem skipTo_moved (secrets : Nat → K) (q : Nat) (state : SessionState K)
    (chain : K) (number : Nat) (sender : DevicePubkey K) :
    (movedState secrets q state).skipTo chain number sender =
      movedState secrets q (state.skipTo chain number sender) := by
  rw [SessionState.skipTo, SessionState.skipTo]
  by_cases hle : number ≤ state.receivingChainMessageNumber
  · have hle' : number ≤ (movedState secrets q state).receivingChainMessageNumber := hle
    rw [if_pos hle, if_pos hle']
  · have hle' : ¬ number ≤ (movedState secrets q state).receivingChainMessageNumber := hle
    rw [if_neg hle, if_neg hle']
    rfl

/-- Receiving a message of chain `q` at phase `q` retires the receiving chain and
moves to phase `q + 2`, provided the retired chain is not too long. -/
theorem ratchetForHeader_honest (hlaws : SymbolicLaws K) (hdist : Distinct secrets n)
    {state : SessionState K} {pos : Position} (hat : AtPhase secrets shared pos state)
    (hn : pos.phase + 2 < n) {rng : Rng K} (hfresh : ValidSecret rng.secretKeys.head)
    (p previous : Nat) (hgap : RetirementGap pos previous) :
    ∃ next, Session.ratchetForHeader state (honestHeader secrets pos.phase p previous) rng =
        (.ok next, { rng with secretKeys := rng.secretKeys.tail }) ∧
      AtPhase (draw secrets (pos.phase + 3) rng.secretKeys.head) shared
        ⟨pos.phase + 2, 0, pos.sent, 0⟩ next ∧
      next.skippedKeys = retiredKeys secrets shared pos previous state := by
  obtain ⟨retired, hretire, hfields, hkeys⟩ : ∃ retired,
      retire secrets pos previous state = .ok (movedState secrets pos.phase retired) ∧
      (retired.metadataPrivacyVersion = state.metadataPrivacyVersion ∧
        retired.rootKey = state.rootKey ∧
        retired.ourCurrentNostrKey = state.ourCurrentNostrKey ∧
        retired.ourNextNostrKey = state.ourNextNostrKey ∧
        retired.sendingChainMessageNumber = state.sendingChainMessageNumber) ∧
      retired.skippedKeys = retiredKeys secrets shared pos previous state := by
    rw [retire, retiredKeys]
    cases hback : back pos.phase 2 with
    | none => exact ⟨state, rfl, ⟨rfl, rfl, rfl, rfl, rfl⟩, rfl⟩
    | some c =>
        have hchain : (movedState secrets pos.phase state).receivingChainKey =
            some (chainKey secrets shared c pos.received) := by
          have hreceiving := hat.receivingChain
          rw [hback] at hreceiving
          exact hreceiving
        have hphase := back_eq_some.mp hback
        have hskip := hgap (by omega)
        rw [← hat.receivingNumber] at hskip
        refine ⟨state.skipTo (chainKey secrets shared c pos.received) (previous % 2 ^ 32)
          (pubkey secrets c), ?_, ?_, rfl⟩
        · simp only
          rw [skipMessageKeys_eq hchain, skipTo_moved]
          exact if_pos hskip
        · rw [SessionState.skipTo]
          split
          · exact ⟨rfl, rfl, rfl, rfl, rfl⟩
          · exact ⟨rfl, rfl, rfl, rfl, rfl⟩
  obtain ⟨hversion, hroot, hourCurrent, hourNext, hsent⟩ := hfields
  obtain ⟨next, hstep, hnext, hskipped⟩ := ratchetStep_honest hlaws hdist shared
    (movedState secrets pos.phase retired) pos.sent hn hfresh
    (hversion.trans hat.version) (hroot.trans hat.rootKey) rfl rfl
    (hourCurrent.trans hat.ourCurrent) (hourNext.trans hat.ourNext)
    (hsent.trans hat.sendingNumber)
  refine ⟨next, ?_, hnext, hskipped.trans hkeys⟩
  rw [ratchetForHeader_eq hdist hat hn, RandM.bind_lift_of_ok hretire]
  exact hstep

theorem ratchetForHeader_gap (hdist : Distinct secrets n) {state : SessionState K}
    {pos : Position} (hat : AtPhase secrets shared pos state) (hn : pos.phase + 2 < n)
    {rng rng' : Rng K} {p previous : Nat} {next : SessionState K}
    (h : Session.ratchetForHeader state (honestHeader secrets pos.phase p previous) rng =
      (.ok next, rng')) : RetirementGap pos previous := by
  intro hphase
  obtain ⟨c, hc⟩ : ∃ c, back pos.phase 2 = some c :=
    ⟨pos.phase - 2, back_eq_some.mpr (by omega)⟩
  have hchain : (movedState secrets pos.phase state).receivingChainKey =
      some (chainKey secrets shared c pos.received) := by
    have hreceiving := hat.receivingChain
    rw [hc] at hreceiving
    exact hreceiving
  by_contra hgap
  rw [← hat.receivingNumber] at hgap
  have hretire : retire secrets pos previous state =
      .error (.domain .tooManySkippedMessages) := by
    rw [retire, hc]
    simp only
    rw [skipMessageKeys_eq hchain]
    exact if_neg hgap
  rw [ratchetForHeader_eq hdist hat hn, RandM.bind_lift_of_error hretire] at h
  cases h

omit [LinearOrder K] in
/-- A body is opened by its own message key and by no other. -/
theorem openCiphertext_honest (hlaws : SymbolicLaws K) {c p previous : Nat} {payload : T}
    {envelope : MessageEnvelope K T}
    (henv : HonestEnvelope secrets shared c p previous payload envelope) {key : K} {text : T} :
    openCiphertext key envelope.ciphertext = .ok text ↔
      key = messageKey secrets shared c p ∧ text = payload := by
  obtain ⟨nonce, bytes, hencrypt, hcipher⟩ := henv.body
  rw [openCiphertext, hcipher, hlaws.base64_roundTrip]
  change (Primitives.decryptToBytes key bytes).mapError _ = _ ↔ _
  rw [mapError_eq_ok, hlaws.decrypt_iff hencrypt]

theorem matchesSender_honest (hdist : Distinct secrets n) {session : Session K}
    {pos : Position} (hat : AtPhase secrets shared pos session.state) (hn : pos.phase < n)
    {c : Nat} (hc : c < n) :
    session.matchesSender (pubkey secrets c) = true ↔
      c + 2 = pos.phase ∨ c = pos.phase ∨
        session.state.skippedKeys.contains (pubkey secrets c) = true := by
  have hcurrent : (back pos.phase 2).map (pubkey secrets) = some (pubkey secrets c) ↔
      c + 2 = pos.phase := by
    rw [← back_eq_some]
    cases hback : back pos.phase 2 with
    | none => simp
    | some d =>
        have hd := back_eq_some.mp hback
        rw [Option.map_some, Option.some.injEq, Option.some.injEq]
        exact ⟨fun h => hdist.inj d c (by omega) hc h, fun h => by rw [h]⟩
  have hnext : pubkey secrets pos.phase = pubkey secrets c ↔ c = pos.phase :=
    ⟨fun h => (hdist.inj _ _ hn hc h).symm, fun h => by rw [h]⟩
  rw [Session.matchesSender, hat.version, hat.theirCurrent, hat.theirNext]
  simp only [decide_true, Bool.true_and, Bool.or_eq_true, decide_eq_true_eq, hcurrent,
    Option.some.injEq, hnext, or_assoc]

/-- Which path an honest message takes through `plan_receive`. -/
theorem planReceive_eq_ok (hlaws : SymbolicLaws K) (hdist : Distinct secrets n)
    {session : Session K} {pos : Position} (hat : AtPhase secrets shared pos session.state)
    (hn : pos.phase + 1 < n) {c p previous : Nat} {payload : T}
    {envelope : MessageEnvelope K T}
    (henv : HonestEnvelope secrets shared c p previous payload envelope) (hc : c + 1 < n)
    {rng rng' : Rng K} {plan : ReceivePlan K T} :
    session.planReceive envelope rng = (.ok plan, rng') ↔
      plan.sender = pubkey secrets c ∧
      session.matchesSender (pubkey secrets c) = true ∧
      (((c + 2 = pos.phase ∨ c + 4 = pos.phase) ∧ rng' = rng ∧
          ratchetDecrypt session.state (honestHeader secrets c p previous) envelope.ciphertext
            (pubkey secrets c) = .ok (plan.nextState, plan.payload)) ∨
        (c = pos.phase ∧ ∃ mid,
          Session.ratchetForHeader session.state (honestHeader secrets c p previous) rng =
            (.ok mid, rng') ∧
          ratchetDecrypt mid (honestHeader secrets c p previous) envelope.ciphertext
            (pubkey secrets c) = .ok (plan.nextState, plan.payload))) := by
  rw [Session.planReceive, henv.version, henv.sender]
  cases hmatch : session.matchesSender (pubkey secrets c) with
  | false =>
      constructor
      · intro h
        cases h
      · rintro ⟨-, h, -⟩
        cases h
  | true =>
      rw [if_neg (by decide)]
      constructor
      · intro h
        obtain ⟨⟨header, target⟩, _, hlift, hrest⟩ := RandM.bind_eq_ok.mp h
        obtain ⟨hheader, rfl⟩ := RandM.lift_eq_ok.mp hlift
        obtain ⟨rfl, htarget⟩ := (decryptHeader_eq_ok hlaws hdist hat hn henv hc).mp hheader
        obtain ⟨state, rng1, hstate, hbody⟩ := RandM.bind_eq_ok.mp hrest
        obtain ⟨⟨nextState, text⟩, _, hopen, hplan⟩ := RandM.bind_eq_ok.mp hbody
        obtain ⟨hdecrypt, rfl⟩ := RandM.lift_eq_ok.mp hopen
        cases hplan
        refine ⟨rfl, rfl, ?_⟩
        rcases htarget with ⟨hphase, rfl⟩ | ⟨hphase, rfl⟩ | ⟨hphase, rfl⟩
        · cases hstate
          exact Or.inl ⟨Or.inl hphase, rfl, hdecrypt⟩
        · exact Or.inr ⟨hphase, state, hstate, hdecrypt⟩
        · cases hstate
          exact Or.inl ⟨Or.inr hphase, rfl, hdecrypt⟩
      · obtain ⟨nextState, text, sender⟩ := plan
        rintro ⟨rfl, -, ⟨hphase, rfl, hdecrypt⟩ | ⟨hphase, mid, hratchet, hdecrypt⟩⟩
        · obtain ⟨target, htarget, hne⟩ : ∃ target,
              ((c + 2 = pos.phase ∧ target = HeaderDecryptionTarget.current) ∨
                (c = pos.phase ∧ target = .next) ∨
                (c + 4 = pos.phase ∧ target = .previous)) ∧ target ≠ .next := by
            rcases hphase with hphase | hphase
            · exact ⟨.current, Or.inl ⟨hphase, rfl⟩, by decide⟩
            · exact ⟨.previous, Or.inr (Or.inr ⟨hphase, rfl⟩), by decide⟩
          have hheader := (decryptHeader_eq_ok hlaws hdist hat hn henv hc).mpr ⟨rfl, htarget⟩
          rw [RandM.bind_lift_of_ok hheader]
          simp only [if_neg hne]
          refine RandM.bind_eq_ok.mpr ⟨session.state, rng', rfl, ?_⟩
          rw [RandM.bind_lift_of_ok hdecrypt]
          rfl
        · have hheader := (decryptHeader_eq_ok hlaws hdist hat hn henv hc).mpr
            ⟨rfl, Or.inr (Or.inl ⟨hphase, rfl⟩)⟩
          rw [RandM.bind_lift_of_ok hheader]
          simp only [if_true]
          refine RandM.bind_eq_ok.mpr ⟨mid, rng', hratchet, ?_⟩
          rw [RandM.bind_lift_of_ok hdecrypt]
          rfl

end NostrDoubleRatchet
