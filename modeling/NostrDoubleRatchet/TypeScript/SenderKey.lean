import NostrDoubleRatchet.SenderKey.State
import NostrDoubleRatchet.TypeScript.GroupMeta

/-!
Sender keys of `SenderKey.ts`, the repair requests of `SenderKeyRepair.ts` and the outer
events of `OneToManyChannel.ts`. A sender-key state holds what its Rust counterpart holds and
derives the same keys; how it opens a message is written out here after this source.
-/

namespace NostrDoubleRatchet.TypeScript

/-- What the group code takes from JavaScript and from `nostr-tools`. `payload` reads the
bytes of a ciphertext and `text` a plaintext. -/
class GroupCodec (K T : Type) where
  hexToBytes : String → K
  base64Decode : String → Option (List UInt8)
  payload : List UInt8 → T
  text : T → String
  jsonParse : String → Option JsonValue
  verifyEvent : VerifiedEvent → Bool
  getEventHash : Rumor → String

structure SenderKeyDistribution where
  groupId : String
  keyId : Nat
  chainKey : String
  iteration : Nat
  createdAt : Nat
  senderEventPubkey : Option String
  deriving DecidableEq

structure SenderKeyRepairRequest where
  groupId : String
  senderEventPubkey : String
  keyId : Option Nat
  messageNumber : Option Nat
  requiredRevision : Option Nat
  createdAt : Nat
  deriving DecidableEq

section Parsing

/-- The checks of `parseSenderKeyDistribution` on the parsed object. -/
def distributionOfFields (fields : List (String × JsonValue)) : Option SenderKeyDistribution := do
  let get := fun (name : String) => (fields.find? (·.1 = name)).map (·.2)
  let groupId ← JsonValue.isString (get "groupId")
  let keyId ← JsonValue.isNatural (get "keyId")
  let chainKey ← JsonValue.isString (get "chainKey")
  guard (isHex64 chainKey)
  let iteration ← JsonValue.isNatural (get "iteration")
  let createdAt ← JsonValue.isNatural (get "createdAt")
  match get "senderEventPubkey" with
  | none => pure ⟨groupId, keyId, chainKey, iteration, createdAt, none⟩
  | some (.string pubkey) => pure ⟨groupId, keyId, chainKey, iteration, createdAt, some pubkey⟩
  | some _ => none

/-- An optional number of a repair request: absent, or a natural number up to `bound`. -/
def optionalNatural (bound : Nat) : Option JsonValue → Option (Option Nat)
  | none => some none
  | some value =>
      match JsonValue.isNatural (some value) with
      | some n => if n ≤ bound then some (some n) else none
      | none => none

/-- A tag that repeats an optional number of the content. -/
def tagRepeats (tags : List (List String)) (key : String) (value : Option Nat) : Bool :=
  getFirstTagValue tags key = value.map toString

def repairRequestOfFields (tags : List (List String)) (get : String → Option JsonValue) :
    Option SenderKeyRepairRequest := do
  let groupId ← JsonValue.isString (get "groupId")
  guard (groupId ≠ "")
  let senderEventPubkey ← JsonValue.isString (get "senderEventPubkey")
  guard (isHex64 senderEventPubkey)
  let keyId ← optionalNatural u32Max (get "keyId")
  let messageNumber ← optionalNatural u32Max (get "messageNumber")
  let createdAt ← JsonValue.isNatural (get "createdAt")
  guard (createdAt ≤ maxSafeInteger)
  let requiredRevision ← optionalNatural maxSafeInteger (get "requiredRevision")
  guard (getFirstTagValue tags "l" = some groupId)
  guard (getFirstTagValue tags "sender" = some senderEventPubkey)
  guard (tagRepeats tags "key" keyId)
  guard (tagRepeats tags "message" messageNumber)
  guard (tagRepeats tags "revision" requiredRevision)
  pure ⟨groupId, senderEventPubkey, keyId, messageNumber, requiredRevision, createdAt⟩

variable (K T : Type) [GroupCodec K T]

def parseSenderKeyDistribution (content : String) : Option SenderKeyDistribution :=
  match GroupCodec.jsonParse K T content with
  | some (.object fields) => distributionOfFields fields
  | _ => none

/-- A content that parses to `null` throws when its first field is read. -/
def parseSenderKeyRepairRequestRumor (event : Rumor) :
    Except String (Option SenderKeyRepairRequest) :=
  if event.kind ≠ GROUP_SENDER_KEY_REPAIR_REQUEST_KIND then .ok none
  else if event.id ≠ "" ∧ GroupCodec.getEventHash K T event ≠ event.id then .ok none
  else
    match GroupCodec.jsonParse K T event.content with
    | none => .ok none
    | some .null => .error JsonValue.typeError
    | some (.object fields) => .ok (repairRequestOfFields event.tags
        (fun name => (fields.find? (·.1 = name)).map (·.2)))
    | some _ => .ok none

/-- A parsed outer event. `hidden` tells the two content formats apart. -/
structure OneToManyMessage where
  keyId : Nat
  messageNumber : Nat
  ciphertext : List UInt8
  hidden : Bool

def beNat (bytes : List UInt8) : Nat := bytes.foldl (fun n byte => n * 256 + byte.toNat) 0

def parseLegacyOuterContent (content : String) : Except String OneToManyMessage :=
  match GroupCodec.base64Decode K T content with
  | none => .error "base64Decode"
  | some bytes =>
      if bytes.length < 8 then .error "one-to-many payload too short"
      else .ok ⟨beNat (bytes.take 4), beNat ((bytes.drop 4).take 4), bytes.drop 8, false⟩

def parseOuterEvent (event : VerifiedEvent) : Except String OneToManyMessage :=
  if !hasMetadataPrivacyVersion event then .error "Group event requires a privacy upgrade"
  else if event.kind ≠ MESSAGE_EVENT_KIND then
    .error s!"unexpected kind {event.kind}, expected {MESSAGE_EVENT_KIND}"
  else if !GroupCodec.verifyEvent K T event then .error "invalid outer event signature"
  else
    match getFirstTagValue event.tags "header" with
    | some _ =>
        match GroupCodec.base64Decode K T event.content with
        | none => .error "base64Decode"
        | some bytes => .ok ⟨0, 0, bytes, true⟩
    | none => parseLegacyOuterContent K T event.content

end Parsing

namespace SenderKeyState

variable {K T : Type} [Primitives K T]

/-- The constructor's checks, on a chain key of 32 bytes. -/
def create (keyId : Nat) (chainKey : K) (iteration : Nat) : Except String (SenderKeyState K) :=
  if keyId > u32Max then .error "Invalid keyId (expected u32)"
  else if iteration > u32Max then .error "Invalid iteration (expected u32)"
  else .ok (NostrDoubleRatchet.SenderKeyState.new keyId chainKey iteration)

def fromDistribution [GroupCodec K T] (dist : SenderKeyDistribution) :
    Except String (SenderKeyState K) :=
  create dist.keyId (GroupCodec.hexToBytes T dist.chainKey) dist.iteration

def decryptFromBytes (state : SenderKeyState K) (messageNumber : Nat) (ciphertext : T) :
    Except String (T × SenderKeyState K) :=
  if messageNumber > u32Max then .error "Invalid messageNumber (expected u32)"
  else if messageNumber < state.iteration then
    match state.skippedMessageKeys.get? messageNumber with
    | none => .error "Missing skipped sender key message"
    | some messageKey => do
        let plaintext ← Primitives.decryptToBytes messageKey ciphertext
        pure (plaintext, state.consumeState messageNumber)
  else if messageNumber - state.iteration > SENDER_KEY_MAX_SKIP then
    .error "TooManySkippedMessages"
  else if messageNumber = u32Max then .error "sender-key iteration overflow"
  else do
    let (chainKey, iteration, skippedMessageKeys) := KeyChain.skipKeys deriveMessageKey
      (messageNumber - state.iteration) state.chainKey state.iteration state.skippedMessageKeys
    let (nextChainKey, messageKey) := deriveMessageKey chainKey
    let plaintext ← Primitives.decryptToBytes messageKey ciphertext
    pure (plaintext, {
      keyId := state.keyId
      chainKey := nextChainKey
      iteration := iteration + 1
      skippedMessageKeys := pruneSkipped skippedMessageKeys })

/-- The retained keys of `planDecryptBlind`, in the order of their numbers. -/
def tryRetained (ciphertext : T) : List (Nat × K) → Option (Nat × T)
  | [] => none
  | (number, key) :: rest =>
      match Primitives.decryptToBytes key ciphertext with
      | .ok plaintext => some (number, plaintext)
      | .error _ => tryRetained ciphertext rest

/-- The `while` loop of `planDecryptBlind`, which has at most `turns` keys left to try. -/
def searchForward (ciphertext : T) :
    Nat → SenderKeyState K → Except String (Nat × T × SenderKeyState K)
  | 0, _ => .error "sender-key blind decrypt failed"
  | turns + 1, next =>
      if next.iteration = u32Max then .error "sender-key iteration overflow"
      else
        let (nextChainKey, messageKey) := deriveMessageKey next.chainKey
        match Primitives.decryptToBytes messageKey ciphertext with
        | .ok plaintext => .ok (next.iteration, plaintext, { next with
            chainKey := nextChainKey
            iteration := next.iteration + 1
            skippedMessageKeys := pruneSkipped next.skippedMessageKeys })
        | .error _ => searchForward ciphertext turns { next with
            chainKey := nextChainKey
            iteration := next.iteration + 1
            skippedMessageKeys := next.skippedMessageKeys.insert next.iteration messageKey }

/-- The loop bound is `min(2^32 - 1, iteration + SENDER_KEY_MAX_SKIP)`, inclusive. -/
def decryptBlindFromBytes (state : SenderKeyState K) (ciphertext : T) :
    Except String (Nat × T × SenderKeyState K) :=
  match tryRetained ciphertext state.skippedMessageKeys.entries with
  | some (number, plaintext) => .ok (number, plaintext, state.consumeState number)
  | none => searchForward ciphertext
      (min u32Max (state.iteration + SENDER_KEY_MAX_SKIP) + 1 - state.iteration) state

end SenderKeyState

end NostrDoubleRatchet.TypeScript
