import NostrDoubleRatchet.Lib.XOnlyGroup
import NostrDoubleRatchet.Session.State

/-!
The blinding of the responder key, as in `metadata_privacy.rs`, over any group with x-only
keys: the initiator tweaks the inviter's public key and the inviter its normalised secret, by a
hash of what the two agree on. Both get one key pair, or neither gets one.
-/

namespace NostrDoubleRatchet

/-- What `secp256k1` does with keys over the group: the bytes of a secret denote a scalar, those
of a public key an even point, and a point is written as the bytes of its pair. The agreement on
an x-only key is some function of the pair, as the hash of it is. -/
structure CurveKeys {q : ℕ} {G : Type} [AddCommGroup G] [Module (ZMod q) G]
    (group : XOnlyGroup q G) (K : Type) {T : Type} [Primitives K T] where
  scalarOf : K → Option (ZMod q)
  pointOf : K → Option G
  keyOf : G → K
  tweakOf : K → ZMod q
  agreed : K → K
  scalarOf_ne_zero : ∀ {secret scalar}, scalarOf secret = some scalar → scalar ≠ 0
  pointOf_keyOf : ∀ {point}, point ≠ 0 → pointOf (keyOf point) = some (group.even point)
  keyOf_even : ∀ point, keyOf (group.even point) = keyOf point
  secretKeyFromSlice : ∀ {bytes scalar}, scalarOf bytes = some scalar →
    Primitives.secretKeyFromSlice bytes = .ok bytes
  publicKeyFromSlice : ∀ {bytes point}, pointOf bytes = some point →
    Primitives.publicKeyFromSlice bytes = .ok bytes
  publicKey : ∀ {secret scalar}, scalarOf secret = some scalar →
    Primitives.publicKey secret = keyOf (scalar • group.generator)
  xonlyIsValid : ∀ {bytes point}, pointOf bytes = some point →
    Primitives.xonlyIsValid bytes = true
  xonlyAddTweak_zero : ∀ {bytes point}, pointOf bytes = some point → ∀ tweak,
    point + tweakOf tweak • group.generator = 0 → Primitives.xonlyAddTweak bytes tweak = none
  xonlyAddTweak : ∀ {bytes point}, pointOf bytes = some point → ∀ tweak,
    point + tweakOf tweak • group.generator ≠ 0 → Primitives.xonlyAddTweak bytes tweak =
      some (keyOf (point + tweakOf tweak • group.generator))
  hasOddY : ∀ {secret scalar}, scalarOf secret = some scalar →
    Primitives.hasOddY secret = group.oddY (scalar • group.generator)
  negateSecret : ∀ {secret scalar}, scalarOf secret = some scalar →
    scalarOf (Primitives.negateSecret secret) = some (-scalar)
  secretAddTweak_zero : ∀ {secret scalar}, scalarOf secret = some scalar → ∀ tweak,
    scalar + tweakOf tweak = 0 → Primitives.secretAddTweak secret tweak = none
  secretAddTweak : ∀ {secret scalar}, scalarOf secret = some scalar → ∀ tweak,
    scalar + tweakOf tweak ≠ 0 → ∃ tweaked, Primitives.secretAddTweak secret tweak = some tweaked ∧
      scalarOf tweaked = some (scalar + tweakOf tweak)
  conversationKey : ∀ {secret scalar bytes point}, scalarOf secret = some scalar →
    pointOf bytes = some point →
    Primitives.conversationKey secret bytes = .ok (agreed (keyOf (scalar • point)))

namespace CurveKeys

variable {q : ℕ} {G K T : Type} [AddCommGroup G] [Module (ZMod q) G] {group : XOnlyGroup q G}
  [Primitives K T] (keys : CurveKeys group K)

section Keys

variable {keys} {secret other : K} {scalar otherScalar : ZMod q}

theorem pointOf_publicKey (hsecret : keys.scalarOf secret = some scalar) :
    keys.pointOf (Primitives.publicKey secret) = some (group.even (scalar • group.generator)) := by
  rw [keys.publicKey hsecret]
  exact keys.pointOf_keyOf (group.smul_generator_ne_zero (keys.scalarOf_ne_zero hsecret))

theorem secretKeyFromBytes_eq (hsecret : keys.scalarOf secret = some scalar) :
    secretKeyFromBytes secret = .ok secret :=
  mapError_eq_ok.mpr (keys.secretKeyFromSlice hsecret)

theorem devicePubkeyFromSecretBytes_eq (hsecret : keys.scalarOf secret = some scalar) :
    devicePubkeyFromSecretBytes secret = .ok ⟨Primitives.publicKey secret⟩ := by
  rw [devicePubkeyFromSecretBytes, secretKeyFromBytes_eq hsecret]
  rfl

theorem toNostr_publicKey (hsecret : keys.scalarOf secret = some scalar) :
    (⟨Primitives.publicKey secret⟩ : DevicePubkey K).toNostr = .ok (Primitives.publicKey secret) :=
  mapError_eq_ok.mpr (keys.publicKeyFromSlice (pointOf_publicKey hsecret))

/-- Each of two secrets agrees with the public key of the other one on the same bytes. -/
theorem conversationKey_agree (hsecret : keys.scalarOf secret = some scalar)
    (hother : keys.scalarOf other = some otherScalar) :
    ∃ key, Primitives.conversationKey secret (Primitives.publicKey other) = .ok key ∧
      Primitives.conversationKey other (Primitives.publicKey secret) = .ok key := by
  refine ⟨_, keys.conversationKey hsecret (pointOf_publicKey hother), ?_⟩
  rw [keys.conversationKey hother (pointOf_publicKey hsecret), ← keys.keyOf_even, group.agree,
    keys.keyOf_even]

/-- Both sides derive the same tweak, or neither derives one. -/
theorem responderTweak_agree (hsecret : keys.scalarOf secret = some scalar)
    (hother : keys.scalarOf other = some otherScalar) (inviter initiator : DevicePubkey K) :
    responderTweak secret ⟨Primitives.publicKey other⟩ inviter initiator =
      responderTweak other ⟨Primitives.publicKey secret⟩ inviter initiator := by
  obtain ⟨key, hleft, hright⟩ := conversationKey_agree hsecret hother
  have hleftKey : deriveConversationKey secret (Primitives.publicKey other) = .ok key :=
    mapError_eq_ok.mpr hleft
  have hrightKey : deriveConversationKey other (Primitives.publicKey secret) = .ok key :=
    mapError_eq_ok.mpr hright
  rw [responderTweak, responderTweak, secretKeyFromBytes_eq hsecret, secretKeyFromBytes_eq hother,
    toNostr_publicKey hsecret, toNostr_publicKey hother]
  change deriveConversationKey secret _ >>= _ = deriveConversationKey other _ >>= _
  rw [hleftKey, hrightKey]

/-- The secret that `private_responder_secret_key` tweaks. -/
theorem scalarOf_normalized (hsecret : keys.scalarOf secret = some scalar) :
    keys.scalarOf (if Primitives.hasOddY secret then Primitives.negateSecret secret else secret) =
      some (group.normal scalar) := by
  rw [keys.hasOddY hsecret]
  unfold XOnlyGroup.normal
  split
  · exact keys.negateSecret hsecret
  · exact hsecret

end Keys

/-- The inviter's key of one side is the public key of the other side's secret, and both are
derived or neither is. -/
inductive Blinded : Except Error (DevicePubkey K) → Except Error K → Prop where
  | refused (e e' : Error) : Blinded (.error e) (.error e')
  | derived {blinded : K} {scalar : ZMod q} (hscalar : keys.scalarOf blinded = some scalar) :
      Blinded (.ok ⟨Primitives.publicKey blinded⟩) (.ok blinded)

/-- The two derivations of the responder key, for secrets of either parity. -/
theorem blinded_agree {inviter initiator : K} {inviterScalar initiatorScalar : ZMod q}
    (hinviter : keys.scalarOf inviter = some inviterScalar)
    (hinitiator : keys.scalarOf initiator = some initiatorScalar) :
    keys.Blinded (privateResponderPublicKey initiator ⟨Primitives.publicKey inviter⟩)
      (privateResponderSecretKey inviter ⟨Primitives.publicKey initiator⟩) := by
  have hnormal := scalarOf_normalized hinviter
  unfold privateResponderPublicKey privateResponderSecretKey
  rw [devicePubkeyFromSecretBytes_eq hinitiator, devicePubkeyFromSecretBytes_eq hinviter]
  simp only [bind, Except.bind]
  rw [responderTweak_agree hinitiator hinviter]
  cases htweak : responderTweak inviter ⟨Primitives.publicKey initiator⟩
      ⟨Primitives.publicKey inviter⟩ ⟨Primitives.publicKey initiator⟩ with
  | error e => exact .refused e e
  | ok tweak =>
      have hpoint := pointOf_publicKey hinviter
      simp only [toNostr_publicKey hinviter, keys.secretKeyFromSlice hinviter, Except.mapError,
        keys.xonlyIsValid hpoint, if_true]
      by_cases hzero : group.normal inviterScalar + keys.tweakOf tweak = 0
      · rw [keys.xonlyAddTweak_zero hpoint tweak ((group.tweak_eq_zero_iff _ _).mpr hzero),
          keys.secretAddTweak_zero hnormal tweak hzero]
        exact .refused _ _
      · obtain ⟨tweaked, htweaked, hscalar⟩ := keys.secretAddTweak hnormal tweak hzero
        rw [keys.xonlyAddTweak hpoint tweak
          (fun h => hzero ((group.tweak_eq_zero_iff _ _).mp h)), htweaked, group.tweak,
          ← keys.publicKey hscalar]
        exact .derived hscalar

/-! The sessions that start from the two derivations. -/

section Sessions

variable [LinearOrder K]

omit [LinearOrder K] in
theorem Blinded.isOk {blindedKey : Except Error (DevicePubkey K)} {blindedSecret : Except Error K}
    (h : keys.Blinded blindedKey blindedSecret) : blindedKey.isOk = blindedSecret.isOk := by
  cases h with
  | refused e e' => rfl
  | derived hscalar => rfl

omit [LinearOrder K] in
theorem Blinded.of_publicKey {blindedKey : DevicePubkey K} {blindedSecret : Except Error K}
    (h : keys.Blinded (.ok blindedKey) blindedSecret) :
    ∃ secret scalar, blindedSecret = .ok secret ∧ keys.scalarOf secret = some scalar ∧
      blindedKey = ⟨Primitives.publicKey secret⟩ := by
  cases h with
  | derived hscalar => exact ⟨_, _, rfl, hscalar, rfl⟩

/-- The state that the initiator starts from. -/
theorem newInitiator_keys {inviter : DevicePubkey K} {initiator shared : K}
    {initiatorScalar : ZMod q} (hinitiator : keys.scalarOf initiator = some initiatorScalar)
    {rng rng' : Rng K} {session : Session K}
    (h : Session.newInitiator inviter initiator shared rng = (.ok session, rng')) :
    ∃ blinded, privateResponderPublicKey initiator inviter = .ok blinded ∧
      session.state.ourCurrentNostrKey = some ⟨⟨Primitives.publicKey initiator⟩, initiator⟩ ∧
      session.state.theirNextNostrPublicKey = some blinded := by
  rw [Session.newInitiator, Session.initWithContext] at h
  obtain ⟨⟨theirs, ours⟩, rng₁, hpair, h⟩ := RandM.bind_eq_ok.mp h
  obtain ⟨hpairOk, rfl⟩ := RandM.lift_eq_ok.mp hpair
  rw [if_pos rfl, except_bind_eq_ok] at hpairOk
  obtain ⟨blinded, hblinded, hpairEq⟩ := hpairOk
  cases hpairEq
  obtain ⟨secret, rng₂, hsecret, h⟩ := RandM.bind_eq_ok.mp h
  have hsame := (RandM.lift_eq_ok.mp hsecret).1
  rw [secretKeyFromBytes_eq hinitiator] at hsame
  cases hsame
  obtain ⟨nextPrivate, rng₃, -, h⟩ := RandM.bind_eq_ok.mp h
  obtain ⟨nextSecret, rng₄, -, h⟩ := RandM.bind_eq_ok.mp h
  rw [if_pos rfl] at h
  obtain ⟨peer, rng₅, -, h⟩ := RandM.bind_eq_ok.mp h
  obtain ⟨conversationKey, rng₆, -, h⟩ := RandM.bind_eq_ok.mp h
  cases h
  exact ⟨_, hblinded, rfl, rfl⟩

/-- The state that the responder starts from. -/
theorem newResponder_keys {initiator : DevicePubkey K} {inviter shared secret : K}
    {scalar drawnScalar : ZMod q}
    (hsecret : privateResponderSecretKey inviter initiator = .ok secret)
    (hscalar : keys.scalarOf secret = some scalar) {rng : Rng K}
    (hdrawn : keys.scalarOf rng.secretKeys.head = some drawnScalar) :
    ∃ session rng', Session.newResponder initiator inviter shared rng = (.ok session, rng') ∧
      session.state.ourCurrentNostrKey = none ∧
      session.state.ourNextNostrKey.privateKey = secret := by
  have hpair : (if (false : Bool) = true then do
        let blinded ← privateResponderPublicKey inviter initiator
        pure (blinded, inviter)
      else do
        let blinded ← privateResponderSecretKey inviter initiator
        pure (initiator, blinded) : Except Error (DevicePubkey K × K)) = .ok (initiator, secret) := by
    rw [if_neg Bool.false_ne_true, hsecret]
    rfl
  exact ⟨_, _, RandM.bind_eq_ok.mpr ⟨_, _, RandM.lift_eq_ok.mpr ⟨hpair, rfl⟩,
    RandM.bind_eq_ok.mpr ⟨_, _, RandM.lift_eq_ok.mpr ⟨secretKeyFromBytes_eq hscalar, rfl⟩,
      RandM.bind_eq_ok.mpr ⟨_, _, rfl,
        RandM.bind_eq_ok.mpr ⟨_, _, RandM.lift_eq_ok.mpr ⟨secretKeyFromBytes_eq hdrawn, rfl⟩,
          rfl⟩⟩⟩⟩, rfl, rfl⟩

/-- What NIP-44 and the JSON of headers promise: a header opens under the key it was sealed
with, and reads back. -/
structure HeaderLaws (K : Type) {T : Type} [Primitives K T] : Prop where
  opens : ∀ {secret theirs secret' theirs' key nonce : K} {plaintext ciphertext : T},
    Primitives.conversationKey secret theirs = .ok key →
    Primitives.conversationKey secret' theirs' = .ok key →
    Primitives.nip44Encrypt secret theirs nonce plaintext = .ok ciphertext →
    Primitives.nip44Decrypt secret' theirs' ciphertext = .ok plaintext
  header : ∀ header : Header K,
    Primitives.headerFromJson (Primitives.headerToJson header) = .ok header

/-- The header of a message to the blinded key opens under the blinded secret. -/
theorem decryptHeader_first (laws : HeaderLaws K) {initiator secret : K}
    {initiatorScalar scalar : ZMod q} (hinitiator : keys.scalarOf initiator = some initiatorScalar)
    (hsecret : keys.scalarOf secret = some scalar) {session responder : Session K}
    (hcurrent : session.state.ourCurrentNostrKey =
      some ⟨⟨Primitives.publicKey initiator⟩, initiator⟩)
    (hnext : session.state.theirNextNostrPublicKey = some ⟨Primitives.publicKey secret⟩)
    (hnone : responder.state.ourCurrentNostrKey = none)
    (hours : responder.state.ourNextNostrKey.privateKey = secret)
    {bodyNonce headerNonce : K} {payload : T} {now : UnixSeconds} {plan : SendPlan K T}
    (hplan : session.planSend bodyNonce headerNonce payload now = .ok plan) :
    ∃ next header ciphertext,
      ratchetEncrypt session.state bodyNonce payload = .ok (next, header, ciphertext) ∧
      decryptHeader responder.state plan.envelope.encryptedHeader plan.envelope.sender =
        .ok (header, .next) := by
  unfold Session.planSend at hplan
  split at hplan
  · cases hplan
  · obtain ⟨⟨next, header, ciphertext⟩, hencrypt, hplan⟩ := except_bind_eq_ok.mp hplan
    rw [hcurrent] at hplan
    obtain ⟨ourSecret, hours', hplan⟩ := except_bind_eq_ok.mp hplan
    rw [secretKeyFromBytes_eq hinitiator] at hours'
    cases hours'
    rw [hnext] at hplan
    obtain ⟨theirs, htheirs, hplan⟩ := except_bind_eq_ok.mp hplan
    rw [toNostr_publicKey hsecret] at htheirs
    cases htheirs
    obtain ⟨encryptedHeader, hsealed, hplan⟩ := except_bind_eq_ok.mp hplan
    cases hplan
    refine ⟨next, header, ciphertext, hencrypt, ?_⟩
    obtain ⟨key, hleft, hright⟩ := conversationKey_agree hinitiator hsecret
    have hopened := laws.opens hleft hright (mapError_eq_ok.mp hsealed)
    have hread : tryHeaderKey secret encryptedHeader ⟨Primitives.publicKey initiator⟩ =
        .ok (some header) := by
      unfold tryHeaderKey
      rw [secretKeyFromBytes_eq hsecret, toNostr_publicKey hinitiator]
      simp only [bind, Except.bind, hopened, laws.header, Except.mapError]
      rfl
    unfold decryptHeader
    rw [hnone, hours]
    simp only [tryOptionalHeaderKey, bind, Except.bind, hread]
    rfl

/-- The two derivations agree: both or neither succeed, and then the one gives the public key of
the other. So whatever session the initiator starts, the responder starts one that opens the
header of its first message. -/
theorem responder_keys_agree (laws : HeaderLaws K) {inviter initiator : K}
    {inviterScalar initiatorScalar : ZMod q}
    (hinviter : keys.scalarOf inviter = some inviterScalar)
    (hinitiator : keys.scalarOf initiator = some initiatorScalar) :
    (privateResponderPublicKey initiator ⟨Primitives.publicKey inviter⟩).isOk =
      (privateResponderSecretKey inviter ⟨Primitives.publicKey initiator⟩).isOk ∧
    (∀ blinded secret,
      privateResponderPublicKey initiator ⟨Primitives.publicKey inviter⟩ = .ok blinded →
      privateResponderSecretKey inviter ⟨Primitives.publicKey initiator⟩ = .ok secret →
      devicePubkeyFromSecretBytes secret = .ok blinded) ∧
    ∀ shared rng rng' session, Session.newInitiator ⟨Primitives.publicKey inviter⟩ initiator shared
        rng = (.ok session, rng') →
      ∀ responderRng : Rng K, (keys.scalarOf responderRng.secretKeys.head).isSome = true →
      ∃ responder responderRng', Session.newResponder ⟨Primitives.publicKey initiator⟩ inviter
          shared responderRng = (.ok responder, responderRng') ∧
        ∀ bodyNonce headerNonce payload now plan,
          session.planSend bodyNonce headerNonce payload now = .ok plan →
          ∃ next header ciphertext,
            ratchetEncrypt session.state bodyNonce payload = .ok (next, header, ciphertext) ∧
            decryptHeader responder.state plan.envelope.encryptedHeader plan.envelope.sender =
              .ok (header, .next) := by
  have hagree := keys.blinded_agree hinviter hinitiator
  refine ⟨Blinded.isOk keys hagree, ?_, ?_⟩
  · intro blinded secret hpublic hsecret
    rw [hpublic] at hagree
    obtain ⟨secret', scalar, hsecret', hscalar, rfl⟩ := Blinded.of_publicKey keys hagree
    rw [hsecret] at hsecret'
    cases hsecret'
    exact devicePubkeyFromSecretBytes_eq hscalar
  · intro shared rng rng' session hsession responderRng hdrawn
    obtain ⟨blinded, hpublic, hcurrent, hnext⟩ := newInitiator_keys keys hinitiator hsession
    rw [hpublic] at hagree
    obtain ⟨secret, scalar, hsecret, hscalar, rfl⟩ := Blinded.of_publicKey keys hagree
    obtain ⟨drawnScalar, hdrawnScalar⟩ := Option.isSome_iff_exists.mp hdrawn
    obtain ⟨responder, responderRng', hresponder, hnone, hours⟩ :=
      @newResponder_keys _ _ _ _ _ _ _ _ keys _ _ _ shared _ _ _ hsecret hscalar _ hdrawnScalar
    refine ⟨responder, responderRng', hresponder, ?_⟩
    intro bodyNonce headerNonce payload now plan hplan
    exact decryptHeader_first keys laws hinitiator hscalar hcurrent hnext hnone hours hplan

end Sessions

end CurveKeys

/-! The residues of seven as a group, the even ones as the even points. -/

namespace SevenPoints

/-- Texts: a header, and a text sealed under a key. -/
inductive Note where
  | header (header : Header Nat)
  | sealed (key : Nat) (body : Note)

def group : XOnlyGroup 7 (ZMod 7) where
  prime := by decide
  generator := 1
  generates := by
    have hsmul : (fun scalar : ZMod 7 => scalar • (1 : ZMod 7)) = id := by
      funext scalar
      exact mul_one scalar
    rw [hsmul]
    exact Function.bijective_id
  oddY point := point.val % 2 = 1
  oddY_neg := by decide

def scalarOf (bytes : Nat) : Option (ZMod 7) :=
  if 1 ≤ bytes ∧ bytes ≤ 6 then some bytes else none

/-- A public key is written as ten and the even point. -/
def keyOf (point : ZMod 7) : Nat := 10 + (group.even point).val

def pointOf (bytes : Nat) : Option (ZMod 7) :=
  if bytes = 12 ∨ bytes = 14 ∨ bytes = 16 then some (bytes - 10 : Nat) else none

def conversationKey (secret theirs : Nat) : Except String Nat :=
  match pointOf theirs with
  | some point => .ok (100 + keyOf ((secret : ZMod 7) * point))
  | none => .error "malformed public key"

@[reducible] def primitives : Primitives Nat Note where
  secretKeyFromSlice bytes := if (scalarOf bytes).isSome then .ok bytes else .error "secret key"
  publicKeyFromSlice bytes := if (pointOf bytes).isSome then .ok bytes else .error "public key"
  publicKey secret := keyOf secret
  conversationKey := conversationKey
  hkdf key _ index := key + index
  encryptToBytes key _ body := .ok (.sealed key body)
  decryptToBytes key
    | .sealed key' body => if key = key' then .ok body else .error "mac"
    | .header _ => .error "payload"
  nip44Encrypt secret theirs _ body := (conversationKey secret theirs).map (Note.sealed · body)
  nip44Decrypt secret theirs
    | .sealed key' body =>
        (conversationKey secret theirs).bind (fun key =>
          if key = key' then .ok body else .error "mac")
    | .header _ => .error "payload"
  base64Encode := id
  base64Decode := .ok
  headerToJson := .header
  headerFromJson
    | .header header => .ok header
    | .sealed _ _ => .error "invalid json"
  sha256 _ parts := parts.sum
  scalarFromBytes bytes := some (bytes % 7)
  isZeroScalar bytes := bytes % 7 = 0
  xonlyIsValid bytes := (pointOf bytes).isSome
  xonlyAddTweak bytes tweak := (pointOf bytes).bind (fun point =>
    if point + (tweak : ZMod 7) = 0 then none else some (keyOf (point + (tweak : ZMod 7))))
  hasOddY secret := group.oddY secret
  negateSecret secret := (-(secret : ZMod 7)).val
  secretAddTweak secret tweak :=
    if (secret : ZMod 7) + (tweak : ZMod 7) = 0 then none
    else some ((secret : ZMod 7) + (tweak : ZMod 7)).val
  toHex := toString

attribute [local instance] primitives

theorem scalarOf_val : ∀ scalar : ZMod 7, scalar ≠ 0 → scalarOf scalar.val = some scalar := by
  decide

theorem scalarOf_eq_some {bytes : Nat} {scalar : ZMod 7} (h : scalarOf bytes = some scalar) :
    scalar ≠ 0 ∧ scalar = bytes := by
  unfold scalarOf at h
  split at h
  · rename_i hbounds
    cases h
    refine ⟨?_, rfl⟩
    obtain ⟨hlow, hhigh⟩ := hbounds
    interval_cases bytes <;> decide
  · cases h

/-- The curve's keys over the seven residues. -/
def keys : CurveKeys group Nat where
  scalarOf := scalarOf
  pointOf := pointOf
  keyOf := keyOf
  tweakOf tweak := tweak
  agreed key := 100 + key
  scalarOf_ne_zero h := (scalarOf_eq_some h).1
  pointOf_keyOf := by
    intro point
    revert point
    decide
  keyOf_even := by decide
  secretKeyFromSlice h := if_pos (by rw [h]; rfl)
  publicKeyFromSlice h := if_pos (by rw [h]; rfl)
  publicKey {secret scalar} h := by
    obtain ⟨-, rfl⟩ := scalarOf_eq_some h
    exact congrArg keyOf (mul_one _).symm
  xonlyIsValid h := by
    change (pointOf _).isSome = true
    rw [h]
    rfl
  xonlyAddTweak_zero {bytes point} h tweak hzero := by
    change (pointOf bytes).bind _ = none
    rw [h, Option.bind_some]
    refine if_pos ?_
    rw [← hzero]
    exact congrArg (point + ·) (mul_one _).symm
  xonlyAddTweak {bytes point} h tweak hzero := by
    change (pointOf bytes).bind _ = _
    have hone : (tweak : ZMod 7) • group.generator = tweak := mul_one _
    rw [hone] at hzero ⊢
    rw [h, Option.bind_some]
    exact if_neg hzero
  hasOddY {secret scalar} h := by
    obtain ⟨-, rfl⟩ := scalarOf_eq_some h
    exact congrArg group.oddY (mul_one _).symm
  negateSecret {secret scalar} h := by
    obtain ⟨hne, rfl⟩ := scalarOf_eq_some h
    exact scalarOf_val _ (neg_ne_zero.mpr hne)
  secretAddTweak_zero {secret scalar} h tweak hzero := by
    obtain ⟨-, rfl⟩ := scalarOf_eq_some h
    exact if_pos hzero
  secretAddTweak {secret scalar} h tweak hne := by
    obtain ⟨-, rfl⟩ := scalarOf_eq_some h
    exact ⟨_, if_neg hne, scalarOf_val _ hne⟩
  conversationKey {secret scalar bytes point} h hpoint := by
    obtain ⟨-, rfl⟩ := scalarOf_eq_some h
    change conversationKey secret bytes = _
    unfold conversationKey
    rw [hpoint]
    rfl

theorem headerLaws : CurveKeys.HeaderLaws Nat where
  opens {secret theirs secret' theirs' key nonce plaintext ciphertext} hleft hright hsealed := by
    change (conversationKey secret theirs).map (Note.sealed · plaintext) = _ at hsealed
    rw [show conversationKey secret theirs = .ok key from hleft] at hsealed
    cases hsealed
    change (conversationKey secret' theirs').bind _ = _
    rw [show conversationKey secret' theirs' = .ok key from hright]
    exact if_pos rfl
  header _ := rfl

/-- An odd secret of the inviter and an odd one of the initiator. -/
theorem blind_odd_secrets :
    privateResponderPublicKey 5 ⟨Primitives.publicKey (3 : Nat)⟩ = .ok ⟨16⟩ ∧
      privateResponderSecretKey 3 ⟨Primitives.publicKey (5 : Nat)⟩ = .ok 6 ∧
      devicePubkeyFromSecretBytes (6 : Nat) = .ok ⟨16⟩ := by
  have hpublic : privateResponderPublicKey 5 ⟨Primitives.publicKey (3 : Nat)⟩ = .ok ⟨16⟩ := by
    decide
  have hsecret : privateResponderSecretKey 3 ⟨Primitives.publicKey (5 : Nat)⟩ = .ok 6 := by
    decide
  have hinviter : keys.scalarOf (3 : Nat) = some 3 := rfl
  have hinitiator : keys.scalarOf (5 : Nat) = some 5 := rfl
  exact ⟨hpublic, hsecret,
    (keys.responder_keys_agree headerLaws hinviter hinitiator).2.1 _ _ hpublic hsecret⟩

end SevenPoints

end NostrDoubleRatchet
