import NostrDoubleRatchet.Lib.KeyChain
import NostrDoubleRatchet.Primitives

/-!
The pairwise session of `session.rs` with the responder key blinding of
`metadata_privacy.rs`. A plan is a pure function of the session and its input;
applying it replaces the state. The nonces NIP-44 draws are arguments.
-/

namespace NostrDoubleRatchet

structure SerializableKeyPair (K : Type) where
  publicKey : DevicePubkey K
  privateKey : K
  deriving DecidableEq

structure SkippedKeysEntry (K : Type) where
  messageKeys : SortedMap Nat K
  deriving DecidableEq

structure SessionState (K : Type) [LinearOrder K] where
  metadataPrivacyVersion : Nat
  rootKey : K
  theirCurrentNostrPublicKey : Option (DevicePubkey K)
  theirNextNostrPublicKey : Option (DevicePubkey K)
  ourPreviousNostrKey : Option (SerializableKeyPair K)
  ourCurrentNostrKey : Option (SerializableKeyPair K)
  ourNextNostrKey : SerializableKeyPair K
  receivingChainKey : Option K
  sendingChainKey : Option K
  sendingChainMessageNumber : Nat
  receivingChainMessageNumber : Nat
  previousSendingChainMessageCount : Nat
  skippedKeys : SortedMap (DevicePubkey K) (SkippedKeysEntry K)
  deriving DecidableEq

structure MessageEnvelope (K T : Type) where
  metadataPrivacyVersion : Nat
  sender : DevicePubkey K
  recipient : Option (DevicePubkey K)
  signerSecretKey : K
  createdAt : UnixSeconds
  encryptedHeader : T
  ciphertext : T

structure SendPlan (K T : Type) [LinearOrder K] where
  nextState : SessionState K
  envelope : MessageEnvelope K T
  payload : T

structure ReceivePlan (K T : Type) [LinearOrder K] where
  nextState : SessionState K
  payload : T
  sender : DevicePubkey K

structure Session (K : Type) [LinearOrder K] where
  state : SessionState K
  name : String
  deriving DecidableEq

inductive HeaderDecryptionTarget where
  | current
  | next
  | previous
  deriving DecidableEq

section MetadataPrivacy

variable {K T : Type} [Primitives K T]

def invalidKey : Error := .domain (.invalidState "invalid responder key tweak")

def responderTweak (ourSecret : K)
    (theirPublic inviterPublic initiatorPublic : DevicePubkey K) : Except Error K := do
  let secret ← secretKeyFromBytes ourSecret
  let theirs ← theirPublic.toNostr
  let shared ← deriveConversationKey secret theirs
  match Primitives.scalarFromBytes (Primitives.sha256 "NIP-118/responder-key-blinding/v2"
      [shared, inviterPublic.bytes, initiatorPublic.bytes]) with
  | none => .error invalidKey
  | some scalar => if Primitives.isZeroScalar scalar then .error invalidKey else .ok scalar

def privateResponderPublicKey (initiatorSecret : K) (inviterPublic : DevicePubkey K) :
    Except Error (DevicePubkey K) := do
  let initiatorPublic ← devicePubkeyFromSecretBytes initiatorSecret
  let tweak ← responderTweak initiatorSecret inviterPublic inviterPublic initiatorPublic
  let inviter ← inviterPublic.toNostr
  if Primitives.xonlyIsValid inviter then
    match Primitives.xonlyAddTweak inviter tweak with
    | some blinded => .ok ⟨blinded⟩
    | none => .error invalidKey
  else .error invalidKey

def privateResponderSecretKey (inviterSecret : K) (initiatorPublic : DevicePubkey K) :
    Except Error K := do
  let inviterPublic ← devicePubkeyFromSecretBytes inviterSecret
  let tweak ← responderTweak inviterSecret initiatorPublic inviterPublic initiatorPublic
  let secret ← (Primitives.secretKeyFromSlice inviterSecret).mapError (fun _ => invalidKey)
  let normalized := if Primitives.hasOddY secret then Primitives.negateSecret secret else secret
  match Primitives.secretAddTweak normalized tweak with
  | some tweaked => .ok tweaked
  | none => .error invalidKey

end MetadataPrivacy

section

variable {K T : Type} [LinearOrder K] [Primitives K T]

/-- One step of a sending or receiving chain. -/
def chainStep (chainKey : K) : K × K :=
  kdf2 chainKey (.byte 1)

def pruneSkippedMessageKeys (map : SortedMap Nat K) : SortedMap Nat K :=
  map.pruneTo MAX_SKIP

/-- The `while receiving_chain_message_number < until` loop, run `count` times
on the receiving chain key, the message number and the sender's entry. -/
def skipLoop : Nat → Option K → Nat → SortedMap Nat K →
    Except Error (Option K × Nat × SortedMap Nat K)
  | 0, chainKey, number, entry => .ok (chainKey, number, entry)
  | _ + 1, none, _, _ => .error (.domain .sessionNotReady)
  | count + 1, some chainKey, number, entry =>
      skipLoop count (some (chainStep chainKey).1) (number + 1)
        (entry.insert number (chainStep chainKey).2)

/-- `skipped_keys.entry(sender).or_default()`. -/
def SessionState.skippedFrom (state : SessionState K) (sender : DevicePubkey K) :
    SortedMap Nat K :=
  ((state.skippedKeys.get? sender).getD ⟨SortedMap.empty⟩).messageKeys

def skipMessageKeys (state : SessionState K) (until_ : Nat) (sender : DevicePubkey K) :
    Except Error (SessionState K) :=
  if until_ ≤ state.receivingChainMessageNumber then .ok state
  else if until_ - state.receivingChainMessageNumber > MAX_SKIP then
    .error (.domain .tooManySkippedMessages)
  else do
    let (chainKey, number, entry) ← skipLoop (until_ - state.receivingChainMessageNumber)
      state.receivingChainKey state.receivingChainMessageNumber (state.skippedFrom sender)
    pure { state with
      receivingChainKey := chainKey
      receivingChainMessageNumber := number
      skippedKeys := state.skippedKeys.insert sender ⟨pruneSkippedMessageKeys entry⟩ }

/-- Decode and decrypt a message body. -/
def openCiphertext (messageKey : K) (ciphertext : T) : Except Error T := do
  let bytes ← (Primitives.base64Decode K ciphertext).mapError Error.decryption
  (Primitives.decryptToBytes messageKey bytes).mapError Error.nip44

def trySkippedMessageKeys (state : SessionState K) (header : Header K) (ciphertext : T)
    (sender : DevicePubkey K) : Except Error (Option (SessionState K × T)) :=
  match state.skippedKeys.get? sender with
  | none => .ok none
  | some entry =>
      match entry.messageKeys.get? header.number with
      | none => .ok none
      | some messageKey => do
          let remaining := entry.messageKeys.erase header.number
          let plaintext ← openCiphertext messageKey ciphertext
          let skippedKeys :=
            if remaining.length = 0 then state.skippedKeys.erase sender
            else state.skippedKeys.insert sender ⟨remaining⟩
          pure (some ({ state with skippedKeys := skippedKeys }, plaintext))

/-- The part of `ratchet_decrypt` that derives the key from the chain. -/
def decryptFromChain (state : SessionState K) (header : Header K) (ciphertext : T)
    (sender : DevicePubkey K) : Except Error (SessionState K × T) :=
  if state.receivingChainKey.isNone then .error (.domain .sessionNotReady)
  else do
    let state ← skipMessageKeys state header.number sender
    match state.receivingChainKey with
    | none => .error (.domain .sessionNotReady)
    | some receivingChainKey => do
        let (chainKey, messageKey) := chainStep receivingChainKey
        let plaintext ← openCiphertext messageKey ciphertext
        pure ({ state with
          receivingChainKey := some chainKey
          receivingChainMessageNumber := u32Succ state.receivingChainMessageNumber }, plaintext)

def ratchetDecrypt (state : SessionState K) (header : Header K) (ciphertext : T)
    (sender : DevicePubkey K) : Except Error (SessionState K × T) := do
  match ← trySkippedMessageKeys state header ciphertext sender with
  | some result => pure result
  | none => decryptFromChain state header ciphertext sender

def ratchetEncrypt (state : SessionState K) (nonce : K) (plaintext : T) :
    Except Error (SessionState K × Header K × T) :=
  match state.sendingChainKey with
  | none => .error (.domain .sessionNotReady)
  | some sendingChainKey => do
      let (chainKey, messageKey) := chainStep sendingChainKey
      let header : Header K := {
        number := state.sendingChainMessageNumber
        nextPublicKey := state.ourNextNostrKey.publicKey
        previousChainLength := state.previousSendingChainMessageCount }
      let state := { state with
        sendingChainKey := some chainKey
        sendingChainMessageNumber := u32Succ state.sendingChainMessageNumber }
      let encrypted ←
        (Primitives.encryptToBytes messageKey nonce plaintext).mapError Error.nip44
      pure (state, header, Primitives.base64Encode K encrypted)

/-- `ratchet_step`: the new receiving chain from our next key, then the new
sending chain from a fresh key. -/
def ratchetStep (state : SessionState K) : RandM K (SessionState K) := do
  let ourNext ← secretKeyFromBytes state.ourNextNostrKey.privateKey
  match state.theirNextNostrPublicKey with
  | none => throw (.domain .sessionNotReady)
  | some theirNext => do
      let theirs ← theirNext.toNostr
      let conversationKey1 ← deriveConversationKey ourNext theirs
      let (root, receivingChainKey) := kdf2 state.rootKey (.key conversationKey1)
      let ourNextPrivateKey ← randomSecretKeyBytes
      let ourNextPublicKey ← devicePubkeyFromSecretBytes ourNextPrivateKey
      let ourNext2 ← secretKeyFromBytes ourNextPrivateKey
      let conversationKey2 ← deriveConversationKey ourNext2 theirs
      let (root2, sendingChainKey) := kdf2 root (.key conversationKey2)
      pure { state with
        previousSendingChainMessageCount := state.sendingChainMessageNumber
        sendingChainMessageNumber := 0
        receivingChainMessageNumber := 0
        receivingChainKey := some receivingChainKey
        ourPreviousNostrKey := state.ourCurrentNostrKey
        ourCurrentNostrKey := some state.ourNextNostrKey
        ourNextNostrKey := ⟨ourNextPublicKey, ourNextPrivateKey⟩
        rootKey := root2
        sendingChainKey := some sendingChainKey }

/-- One attempt of `decrypt_header`: the header, when the key opens it. -/
def tryHeaderKey (privateKey : K) (encryptedHeader : T) (sender : DevicePubkey K) :
    Except Error (Option (Header K)) := do
  let secret ← secretKeyFromBytes privateKey
  let theirs ← sender.toNostr
  match Primitives.nip44Decrypt secret theirs encryptedHeader with
  | .ok decrypted => some <$> (Primitives.headerFromJson decrypted).mapError Error.json
  | .error _ => .ok none

def tryOptionalHeaderKey (pair : Option (SerializableKeyPair K)) (encryptedHeader : T)
    (sender : DevicePubkey K) : Except Error (Option (Header K)) :=
  match pair with
  | none => .ok none
  | some pair => tryHeaderKey pair.privateKey encryptedHeader sender

def decryptHeader (state : SessionState K) (encryptedHeader : T) (sender : DevicePubkey K) :
    Except Error (Header K × HeaderDecryptionTarget) := do
  match ← tryOptionalHeaderKey state.ourCurrentNostrKey encryptedHeader sender with
  | some header => pure (header, .current)
  | none =>
      match ← tryHeaderKey state.ourNextNostrKey.privateKey encryptedHeader sender with
      | some header => pure (header, .next)
      | none =>
          match ← tryOptionalHeaderKey state.ourPreviousNostrKey encryptedHeader sender with
          | some header => pure (header, .previous)
          | none => .error (.parse "invalid header")

namespace Session

def fromState (state : SessionState K) : Session K := ⟨state, ""⟩

def initWithContext (theirEphemeralPublicKey : DevicePubkey K) (ourEphemeralPrivateKey : K)
    (isInitiator : Bool) (sharedSecret : K) : RandM K (Session K) := do
  let (theirs, ours) ← (if isInitiator then do
      let blinded ← privateResponderPublicKey ourEphemeralPrivateKey theirEphemeralPublicKey
      pure (blinded, ourEphemeralPrivateKey)
    else do
      let blinded ← privateResponderSecretKey ourEphemeralPrivateKey theirEphemeralPublicKey
      pure (theirEphemeralPublicKey, blinded) : Except Error (DevicePubkey K × K))
  let ourSecret ← secretKeyFromBytes ours
  let ourNextPrivateKey ← randomSecretKeyBytes
  let ourNextSecret ← secretKeyFromBytes ourNextPrivateKey
  let ourPair : SerializableKeyPair K := ⟨⟨Primitives.publicKey ourSecret⟩, ours⟩
  let common : SessionState K := {
    metadataPrivacyVersion := METADATA_PRIVACY_VERSION
    rootKey := sharedSecret
    theirCurrentNostrPublicKey := none
    theirNextNostrPublicKey := some theirs
    ourPreviousNostrKey := none
    ourCurrentNostrKey := none
    ourNextNostrKey := ourPair
    receivingChainKey := none
    sendingChainKey := none
    sendingChainMessageNumber := 0
    receivingChainMessageNumber := 0
    previousSendingChainMessageCount := 0
    skippedKeys := SortedMap.empty }
  if isInitiator then do
    let peer ← theirs.toNostr
    let conversationKey ← deriveConversationKey ourNextSecret peer
    let (root, sendingChainKey) := kdf2 sharedSecret (.key conversationKey)
    pure (fromState { common with
      rootKey := root
      sendingChainKey := some sendingChainKey
      ourCurrentNostrKey := some ourPair
      ourNextNostrKey := ⟨⟨Primitives.publicKey ourNextSecret⟩, ourNextPrivateKey⟩ })
  else pure (fromState common)

def newInitiator (theirEphemeralPublicKey : DevicePubkey K) (ourEphemeralPrivateKey : K)
    (sharedSecret : K) : RandM K (Session K) :=
  initWithContext theirEphemeralPublicKey ourEphemeralPrivateKey true sharedSecret

def newResponder (theirEphemeralPublicKey : DevicePubkey K) (ourEphemeralPrivateKey : K)
    (sharedSecret : K) : RandM K (Session K) :=
  initWithContext theirEphemeralPublicKey ourEphemeralPrivateKey false sharedSecret

def canSend (session : Session K) : Bool :=
  session.state.metadataPrivacyVersion = METADATA_PRIVACY_VERSION &&
    session.state.theirNextNostrPublicKey.isSome && session.state.ourCurrentNostrKey.isSome

def matchesSender (session : Session K) (sender : DevicePubkey K) : Bool :=
  session.state.metadataPrivacyVersion = METADATA_PRIVACY_VERSION &&
    (session.state.theirCurrentNostrPublicKey = some sender ||
      session.state.theirNextNostrPublicKey = some sender ||
      session.state.skippedKeys.contains sender)

def planSend (session : Session K) (bodyNonce headerNonce : K) (payload : T)
    (now : UnixSeconds) : Except Error (SendPlan K T) :=
  if !session.canSend then .error (.domain .cannotSendYet)
  else do
    let (nextState, header, ciphertext) ← ratchetEncrypt session.state bodyNonce payload
    match session.state.ourCurrentNostrKey with
    | none => .error (.domain .sessionNotReady)
    | some ourCurrent => do
        let ourSecret ← secretKeyFromBytes ourCurrent.privateKey
        match session.state.theirNextNostrPublicKey with
        | none => .error (.domain .sessionNotReady)
        | some theirNext => do
            let theirs ← theirNext.toNostr
            let encryptedHeader ← (Primitives.nip44Encrypt ourSecret theirs headerNonce
              (Primitives.headerToJson header)).mapError Error.nip44
            pure {
              nextState := nextState
              envelope := {
                metadataPrivacyVersion := METADATA_PRIVACY_VERSION
                sender := ourCurrent.publicKey
                recipient := none
                signerSecretKey := ourCurrent.privateKey
                createdAt := now
                encryptedHeader := encryptedHeader
                ciphertext := ciphertext }
              payload := payload }

def applySend (session : Session K) (plan : SendPlan K T) : Session K :=
  { session with state := plan.nextState }

/-- What `plan_receive` does when our next key opened the header: retire the
receiving chain and take the ratchet step. -/
def ratchetForHeader (state : SessionState K) (header : Header K) :
    RandM K (SessionState K) := do
  let previousChainSender :=
    state.theirCurrentNostrPublicKey.or state.theirNextNostrPublicKey
  let moved :=
    if state.theirNextNostrPublicKey ≠ some header.nextPublicKey then
      { state with
        theirCurrentNostrPublicKey := state.theirNextNostrPublicKey
        theirNextNostrPublicKey := some header.nextPublicKey }
    else state
  let retired ← (if moved.receivingChainKey.isSome then
      match previousChainSender with
      | none => .error (.domain .sessionNotReady)
      | some skippedSender => skipMessageKeys moved header.previousChainLength skippedSender
    else .ok moved : Except Error (SessionState K))
  ratchetStep retired

def planReceive (session : Session K) (envelope : MessageEnvelope K T) :
    RandM K (ReceivePlan K T) := do
  if envelope.metadataPrivacyVersion ≠ METADATA_PRIVACY_VERSION ||
      !session.matchesSender envelope.sender then
    throw (.domain .unexpectedSender)
  else do
    let (header, target) ←
      decryptHeader session.state envelope.encryptedHeader envelope.sender
    let state ← (if target = .next then ratchetForHeader session.state header
      else pure session.state : RandM K (SessionState K))
    let (nextState, payload) ←
      ratchetDecrypt state header envelope.ciphertext envelope.sender
    pure ⟨nextState, payload, envelope.sender⟩

def applyReceive (session : Session K) (plan : ReceivePlan K T) : Session K :=
  { session with state := plan.nextState }

end Session

end

end NostrDoubleRatchet
