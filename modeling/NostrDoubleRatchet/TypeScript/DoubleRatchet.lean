import Mathlib.Data.List.Sort
import NostrDoubleRatchet.Session.Honest
import NostrDoubleRatchet.TypeScript.Events

/-!
The session of the TypeScript client. What `generateSecretKey` and the encryption draw is an
argument. `receiveEvent` restores a copy of the state after any exception, so the methods it
calls return a state only when they do not throw; `sendEvent` restores nothing and returns the
state in either case.
-/

namespace NostrDoubleRatchet.TypeScript

namespace DoubleRatchet

def METADATA_PRIVACY_VERSION : Nat := 2

def MAX_SKIP : Nat := 1000

def DUMMY_INNER_PUBKEY : String :=
  "0000000000000000000000000000000000000000000000000000000000000000"

structure SkippedKeys (K : Type) where
  headerKeys : List K
  messageKeys : SortedMap Nat K

structure SessionState (K : Type) [LinearOrder K] where
  metadataPrivacyVersion : Option Nat
  rootKey : K
  theirCurrentNostrPublicKey : Option (DevicePubkey K)
  theirNextNostrPublicKey : DevicePubkey K
  ourCurrentNostrKey : Option (SerializableKeyPair K)
  ourNextNostrKey : SerializableKeyPair K
  receivingChainKey : Option K
  sendingChainKey : Option K
  sendingChainMessageNumber : Nat
  receivingChainMessageNumber : Nat
  previousSendingChainMessageCount : Nat
  skippedKeys : SortedMap (DevicePubkey K) (SkippedKeys K)

/-- An inner event as the caller gives it. -/
structure PartialEvent where
  kind : Option Nat
  createdAt : Option Nat
  tags : Option (List (List String))
  content : Option String
  pubkey : Option String
  hasSig : Bool

/-- The signed event of a message. `header` is the value of its header tag, `tags` are the
others. -/
structure MessageEvent (K T : Type) where
  pubkey : DevicePubkey K
  kind : Nat
  createdAt : Nat
  tags : List (List String)
  header : Option T
  content : T

/-- The texts of inner events, and what `nostr-tools` says of the values read from them. -/
structure RumorCodec (T : Type) where
  jsonStringify : JsonValue → T
  jsonParse : T → Except String JsonValue
  validateEvent : JsonValue → Bool
  getEventHash : JsonValue → Except String String
  describe : PartialEvent → String

def typeError : String := "TypeError"

section

variable {K T : Type} [Primitives K T]

def nip44Encrypt (plaintext : T) (key nonce : K) : Except String T := do
  let bytes ← Primitives.encryptToBytes key nonce plaintext
  pure (Primitives.base64Encode K bytes)

def nip44Decrypt (ciphertext : T) (key : K) : Except String T := do
  let bytes ← Primitives.base64Decode K ciphertext
  Primitives.decryptToBytes key bytes

def getConversationKey (privateKey : K) (publicKey : DevicePubkey K) : Except String K :=
  Primitives.conversationKey privateKey publicKey.bytes

def getPublicKey (secretKey : K) : Except String (DevicePubkey K) := do
  let secret ← Primitives.secretKeyFromSlice secretKey
  pure ⟨Primitives.publicKey secret⟩

/-! `metadataPrivacy.ts`. -/

def responderTweak (ourSecret : K) (theirPublic inviterPublic initiatorPublic : DevicePubkey K) :
    Except String K := do
  let shared ← getConversationKey ourSecret theirPublic
  match Primitives.scalarFromBytes (Primitives.sha256 "NIP-118/responder-key-blinding/v2"
      [shared, inviterPublic.bytes, initiatorPublic.bytes]) with
  | none => .error "Invalid responder key tweak"
  | some tweak =>
      if Primitives.isZeroScalar tweak then .error "Invalid responder key tweak" else .ok tweak

def privateResponderPublicKey (initiatorSecret : K) (inviterPublic : DevicePubkey K) :
    Except String (DevicePubkey K) := do
  let initiatorPublic ← getPublicKey initiatorSecret
  let tweak ← responderTweak initiatorSecret inviterPublic inviterPublic initiatorPublic
  let base ← Primitives.publicKeyFromSlice inviterPublic.bytes
  match Primitives.xonlyAddTweak base tweak with
  | some point => .ok ⟨point⟩
  | none => .error "Invalid blinded responder key"

def privateResponderSecretKey (inviterSecret : K) (initiatorPublic : DevicePubkey K) :
    Except String K := do
  let inviterPublic ← getPublicKey inviterSecret
  let tweak ← responderTweak inviterSecret initiatorPublic inviterPublic initiatorPublic
  let normalized :=
    if Primitives.hasOddY inviterSecret then Primitives.negateSecret inviterSecret
    else inviterSecret
  match Primitives.secretAddTweak normalized tweak with
  | some blinded => .ok blinded
  | none => .error "Invalid blinded responder key"

/-- `["v", "2"]` is the one version tag. -/
def MessageEvent.hasMetadataPrivacyVersion (event : MessageEvent K T) : Bool :=
  match event.tags.filter (fun tag => tag.head? = some "v") with
  | [tag] => tag = ["v", "2"]
  | _ => false

end

/-! `Session.ts`. -/

def invalidInnerRumor : String := "Invalid Double Ratchet inner rumor"

/-- `/^[0-9a-f]{64}$/`. -/
def isLowerHex64 (text : String) : Bool :=
  text.toList.length = 64 && text.toList.all (fun c => c.isDigit || ('a' ≤ c && c ≤ 'f'))

section

variable {T : Type}

def parseInnerRumor (codec : RumorCodec T) (text : T) : Except String JsonValue := do
  let parsed ← codec.jsonParse text
  match parsed with
  | .object fields =>
      if (fields.map Prod.fst).insertionSort (· ≤ ·) ≠
          ["content", "created_at", "id", "kind", "pubkey", "tags"] then .error invalidInnerRumor
      else if !codec.validateEvent parsed then .error invalidInnerRumor
      else
        match fields.lookup "id", fields.lookup "created_at" with
        | some (.string id), some (.number (some createdAt)) =>
            if !isLowerHex64 id || createdAt < 0 || createdAt > maxSafeInteger then
              .error invalidInnerRumor
            else do
              let hash ← codec.getEventHash parsed
              if id = hash then pure parsed else .error invalidInnerRumor
        | _, _ => .error invalidInnerRumor
  | _ => .error invalidInnerRumor

/-- The fields of the inner event before its id is computed; a text that is empty and a time
that is zero count as missing. -/
def innerFields (event : PartialEvent) (kind now : Nat) : List (String × JsonValue) :=
  [("content", .string (event.content.getD "")),
    ("kind", .number (some kind)),
    ("created_at", .number (some ((event.createdAt.filter (· ≠ 0)).getD (now / 1000)))),
    ("tags", .array ((event.tags.getD []).map (fun tag => .array (tag.map .string)))),
    ("pubkey", .string ((truthy event.pubkey).getD DUMMY_INNER_PUBKEY))]

end

section

variable {K T : Type} [LinearOrder K] [Primitives K T]

/-- `Session.init`; the last argument is the key it draws. -/
def init (theirEphemeralNostrPublicKey : DevicePubkey K) (ourEphemeralNostrPrivateKey : K)
    (isInitiator : Bool) (sharedSecret ourNextPrivateKey : K) :
    Except String (SessionState K) := do
  if isInitiator then
    let theirs ← privateResponderPublicKey ourEphemeralNostrPrivateKey theirEphemeralNostrPublicKey
    let conversationKey ← getConversationKey ourNextPrivateKey theirs
    let (rootKey, sendingChainKey) := kdf2 sharedSecret (.key conversationKey)
    let ourPublicKey ← getPublicKey ourEphemeralNostrPrivateKey
    let ourNextPublicKey ← getPublicKey ourNextPrivateKey
    pure {
      metadataPrivacyVersion := some METADATA_PRIVACY_VERSION
      rootKey := rootKey
      theirCurrentNostrPublicKey := none
      theirNextNostrPublicKey := theirs
      ourCurrentNostrKey := some ⟨ourPublicKey, ourEphemeralNostrPrivateKey⟩
      ourNextNostrKey := ⟨ourNextPublicKey, ourNextPrivateKey⟩
      receivingChainKey := none
      sendingChainKey := some sendingChainKey
      sendingChainMessageNumber := 0
      receivingChainMessageNumber := 0
      previousSendingChainMessageCount := 0
      skippedKeys := SortedMap.empty }
  else
    let ours ← privateResponderSecretKey ourEphemeralNostrPrivateKey theirEphemeralNostrPublicKey
    let ourPublicKey ← getPublicKey ours
    pure {
      metadataPrivacyVersion := some METADATA_PRIVACY_VERSION
      rootKey := sharedSecret
      theirCurrentNostrPublicKey := none
      theirNextNostrPublicKey := theirEphemeralNostrPublicKey
      ourCurrentNostrKey := none
      ourNextNostrKey := ⟨ourPublicKey, ours⟩
      receivingChainKey := none
      sendingChainKey := none
      sendingChainMessageNumber := 0
      receivingChainMessageNumber := 0
      previousSendingChainMessageCount := 0
      skippedKeys := SortedMap.empty }

/-- The header of the next message. -/
def SessionState.nextHeader (state : SessionState K) : Header K where
  number := state.sendingChainMessageNumber
  nextPublicKey := state.ourNextNostrKey.publicKey
  previousChainLength := state.previousSendingChainMessageCount

def ratchetEncrypt (state : SessionState K) (plaintext : T) (nonce : K) :
    Except String (Header K × T) × SessionState K :=
  match state.sendingChainKey with
  | none => (.error typeError, state)
  | some sendingChainKey =>
      let (newSendingChainKey, messageKey) := chainStep sendingChainKey
      ((nip44Encrypt plaintext messageKey nonce).map (fun ciphertext =>
          (state.nextHeader, ciphertext)),
        { state with
          sendingChainKey := some newSendingChainKey
          sendingChainMessageNumber := state.sendingChainMessageNumber + 1 })

/-- A tag that names one recipient. -/
def isRecipientTag (tag : List String) : Bool :=
  match tag with
  | ["p", recipient] => isLowerHex64 recipient
  | _ => false

/-- The message of a header and a ciphertext, sealed and signed with our current key. -/
def messageEvent (state : SessionState K) (ourCurrent : SerializableKeyPair K)
    (outerTags : List (List String)) (now : Nat) (headerNonce : K) (header : Header K)
    (encryptedData : T) : Except String (MessageEvent K T) := do
  let sharedSecret ← getConversationKey ourCurrent.privateKey state.theirNextNostrPublicKey
  let encryptedHeader ← nip44Encrypt (Primitives.headerToJson header) sharedSecret headerNonce
  let pubkey ← getPublicKey ourCurrent.privateKey
  pure {
    pubkey := pubkey
    kind := MESSAGE_EVENT_KIND
    createdAt := now / 1000
    tags := ["v", "2"] :: outerTags
    header := some encryptedHeader
    content := encryptedData }

def sendEvent (codec : RumorCodec T) (state : SessionState K) (event : PartialEvent)
    (outerTags : List (List String)) (now : Nat) (bodyNonce headerNonce : K) :
    Except String (MessageEvent K T × JsonValue) × SessionState K :=
  if state.metadataPrivacyVersion ≠ some METADATA_PRIVACY_VERSION then
    (.error "Session requires a new private handshake", state)
  else if outerTags.any (fun tag => !isRecipientTag tag) || outerTags.length > 1 then
    (.error "Only one delivery recipient is allowed outside the encrypted message", state)
  else
    match state.ourCurrentNostrKey with
    | none => (.error "we are not the initiator, so we can't send the first message", state)
    | some ourCurrent =>
        if event.hasSig then (.error ("Event must be unsigned " ++ codec.describe event), state)
        else
          match event.kind with
          | none => (.error "Event kind is required", state)
          | some kind =>
              let fields := innerFields event kind now
              match codec.getEventHash (.object fields) with
              | .error message => (.error message, state)
              | .ok id =>
                  let rumor := JsonValue.object (fields ++ [("id", .string id)])
                  let text := codec.jsonStringify rumor
                  let (encrypted, next) := ratchetEncrypt state text bodyNonce
                  (do
                    let (header, encryptedData) ← encrypted
                    let message ←
                      messageEvent next ourCurrent outerTags now headerNonce header encryptedData
                    pure (message, rumor), next)

/-- The header keys of a fresh entry, of both our pairs. `includes` compares arrays by identity and
finds none, so each is pushed. -/
def headerSecrets (state : SessionState K) (nostrSender : DevicePubkey K) :
    Except String (List K) := do
  let currentSecrets ← state.ourCurrentNostrKey.toList.mapM (fun ourCurrent =>
    getConversationKey ourCurrent.privateKey nostrSender)
  let nextSecret ← getConversationKey state.ourNextNostrKey.privateKey nostrSender
  pure (currentSecrets ++ [nextSecret])

/-- The sender's entry, made when there is none. -/
def skippedEntry (state : SessionState K) (nostrSender : DevicePubkey K) :
    Except String (SkippedKeys K) :=
  match state.skippedKeys.get? nostrSender with
  | some skippedKeys => .ok skippedKeys
  | none => do
      let headerKeys ← headerSecrets state nostrSender
      pure ⟨headerKeys, SortedMap.empty⟩

def skipMessageKeys (state : SessionState K) (until_ : Nat) (nostrSender : DevicePubkey K) :
    Except String (SessionState K) :=
  if until_ ≤ state.receivingChainMessageNumber then .ok state
  else if until_ > state.receivingChainMessageNumber + MAX_SKIP then
    .error "Too many skipped messages"
  else do
    let skipped ← skippedEntry state nostrSender
    match state.receivingChainKey with
    | none => .error typeError
    | some receivingChainKey =>
        let (chainKey, number, messageKeys) := KeyChain.skipKeys chainStep
          (until_ - state.receivingChainMessageNumber) receivingChainKey
          state.receivingChainMessageNumber skipped.messageKeys
        pure { state with
          receivingChainKey := some chainKey
          receivingChainMessageNumber := number
          skippedKeys := state.skippedKeys.insert nostrSender { skipped with
            messageKeys := messageKeys } }

def trySkippedMessageKeys (state : SessionState K) (header : Header K) (ciphertext : T)
    (nostrSender : DevicePubkey K) : Except String (Option (T × SessionState K)) :=
  match state.skippedKeys.get? nostrSender with
  | none => .ok none
  | some skippedKeys =>
      match skippedKeys.messageKeys.get? header.number with
      | none => .ok none
      | some messageKey => do
          let messageKeys := skippedKeys.messageKeys.erase header.number
          let remaining :=
            if messageKeys.length = 0 then state.skippedKeys.erase nostrSender
            else state.skippedKeys.insert nostrSender { skippedKeys with
              messageKeys := messageKeys }
          let plaintext ← nip44Decrypt ciphertext messageKey
          pure (some (plaintext, { state with skippedKeys := remaining }))

def ratchetDecrypt (state : SessionState K) (header : Header K) (ciphertext : T)
    (nostrSender : DevicePubkey K) : Except String (T × SessionState K) := do
  match ← trySkippedMessageKeys state header ciphertext nostrSender with
  | some result => pure result
  | none => do
      let state ← skipMessageKeys state header.number nostrSender
      match state.receivingChainKey with
      | none => .error typeError
      | some receivingChainKey => do
          let (newReceivingChainKey, messageKey) := chainStep receivingChainKey
          let plaintext ← nip44Decrypt ciphertext messageKey
          pure (plaintext, { state with
            receivingChainKey := some newReceivingChainKey
            receivingChainMessageNumber := state.receivingChainMessageNumber + 1 })

def ratchetStep (state : SessionState K) (ourNextSecretKey : K) :
    Except String (SessionState K) := do
  let conversationKey1 ←
    getConversationKey state.ourNextNostrKey.privateKey state.theirNextNostrPublicKey
  let (theirRootKey, receivingChainKey) := kdf2 state.rootKey (.key conversationKey1)
  let ourNextPublicKey ← getPublicKey ourNextSecretKey
  let conversationKey2 ← getConversationKey ourNextSecretKey state.theirNextNostrPublicKey
  let (rootKey, sendingChainKey) := kdf2 theirRootKey (.key conversationKey2)
  pure { state with
    previousSendingChainMessageCount := state.sendingChainMessageNumber
    sendingChainMessageNumber := 0
    receivingChainMessageNumber := 0
    receivingChainKey := some receivingChainKey
    ourCurrentNostrKey := some state.ourNextNostrKey
    ourNextNostrKey := ⟨ourNextPublicKey, ourNextSecretKey⟩
    rootKey := rootKey
    sendingChainKey := some sendingChainKey }

/-- The header, when the key opens it. -/
def openHeader (encryptedHeader : T) (key : K) : Option (Header K) :=
  (nip44Decrypt encryptedHeader key >>= Primitives.headerFromJson).toOption

inductive HeaderKey where
  | current
  | next
  | skipped
  deriving DecidableEq

def tryCurrentKey (state : SessionState K) (nostrSender : DevicePubkey K) (encryptedHeader : T) :
    Except String (Option (Header K)) :=
  match state.ourCurrentNostrKey with
  | none => .ok none
  | some ourCurrent =>
      if state.theirCurrentNostrPublicKey = none ∨
          some nostrSender = state.theirCurrentNostrPublicKey ∨
          nostrSender = state.theirNextNostrPublicKey then do
        let currentSecret ← getConversationKey ourCurrent.privateKey nostrSender
        pure (openHeader encryptedHeader currentSecret)
      else .ok none

def tryNextKey (state : SessionState K) (nostrSender : DevicePubkey K) (encryptedHeader : T) :
    Except String (Option (Header K)) :=
  if nostrSender = state.theirNextNostrPublicKey then do
    let nextSecret ← getConversationKey state.ourNextNostrKey.privateKey nostrSender
    pure (openHeader encryptedHeader nextSecret)
  else .ok none

def trySkippedKeys (state : SessionState K) (nostrSender : DevicePubkey K) (encryptedHeader : T) :
    Option (Header K) :=
  (state.skippedKeys.get? nostrSender).bind (fun skippedKeys =>
    skippedKeys.headerKeys.findSome? (openHeader encryptedHeader))

/-- `decryptHeader`; the flags it returns say which key opened the header. -/
def decryptHeader (state : SessionState K) (event : MessageEvent K T) :
    Except String (Header K × HeaderKey) :=
  match event.header with
  | none => .error "Missing encrypted header"
  | some encryptedHeader => do
      match ← tryCurrentKey state event.pubkey encryptedHeader with
      | some header => pure (header, .current)
      | none =>
          match ← tryNextKey state event.pubkey encryptedHeader with
          | some header => pure (header, .next)
          | none =>
              match trySkippedKeys state event.pubkey encryptedHeader with
              | some header => pure (header, .skipped)
              | none => .error "Failed to decrypt header with current and skipped header keys"

/-- The keys the header announces. -/
def learnKeys (state : SessionState K) (header : Header K) : SessionState K :=
  if state.theirNextNostrPublicKey ≠ header.nextPublicKey then
    { state with
      theirCurrentNostrPublicKey := some state.theirNextNostrPublicKey
      theirNextNostrPublicKey := header.nextPublicKey }
  else state

/-- The ratchet of `receiveEvent` when our next key opened the header. -/
def ratchetForHeader (state : SessionState K) (header : Header K) (ourNextSecretKey : K) :
    Except String (SessionState K) := do
  let previousSender := state.theirCurrentNostrPublicKey.getD state.theirNextNostrPublicKey
  let skipped ← skipMessageKeys (learnKeys state header) header.previousChainLength previousSender
  ratchetStep skipped ourNextSecretKey

/-- The key kept for a message, if there is one. -/
def SessionState.skippedKey (state : SessionState K) (nostrSender : DevicePubkey K)
    (number : Nat) : Option K :=
  (state.skippedKeys.get? nostrSender).bind (fun skippedKeys =>
    skippedKeys.messageKeys.get? number)

/-- What the header says is taken over, unless a skipped key opened it. -/
def applyHeader (state : SessionState K) (header : Header K) (opened : HeaderKey)
    (ourNextSecretKey : K) : Except String (SessionState K) :=
  match opened with
  | .current => pure (learnKeys state header)
  | .next => ratchetForHeader state header ourNextSecretKey
  | .skipped => pure state

/-- The `try` block of `receiveEvent`. -/
def receiveOpened (codec : RumorCodec T) (callbacks : JsonValue → Except String Unit)
    (state : SessionState K) (event : MessageEvent K T) (ourNextSecretKey : K) :
    Except String (Option JsonValue × SessionState K) := do
  let (header, opened) ← decryptHeader state event
  if opened = .skipped && (state.skippedKey event.pubkey header.number).isNone then
    pure (none, state)
  else
    let ready ← applyHeader state header opened ourNextSecretKey
    let (text, next) ← ratchetDecrypt ready header event.content event.pubkey
    let innerEvent ← parseInnerRumor codec text
    callbacks innerEvent
    pure (some innerEvent, next)

/-- The `catch` block: which exceptions are swallowed. -/
def caught (message : String) : Except String (Option JsonValue) :=
  if "Failed to decrypt header".toList <:+: message.toList ∨ message = "invalid MAC" then .ok none
  else .error message

/-- `receiveEvent`; `callbacks` stands for the subscribers, `ourNextSecretKey` for the key a
ratchet step draws. -/
def receiveEvent (codec : RumorCodec T) (callbacks : JsonValue → Except String Unit)
    (state : SessionState K) (event : MessageEvent K T) (ourNextSecretKey : K) :
    Except String (Option JsonValue) × SessionState K :=
  if state.metadataPrivacyVersion ≠ some METADATA_PRIVACY_VERSION ||
      !event.hasMetadataPrivacyVersion then (.ok none, state)
  else
    match receiveOpened codec callbacks state event ourNextSecretKey with
    | .ok (innerEvent, next) => (.ok innerEvent, next)
    | .error message => (caught message, state)

end

end DoubleRatchet

end NostrDoubleRatchet.TypeScript
