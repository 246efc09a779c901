import NostrDoubleRatchet.Invite
import NostrDoubleRatchet.Pairwise.Codec

/-!
Message and invite-response events, as in `wire.rs`: a ratchet message or a response
travels as a signed event whose tags hold the protocol version, the encrypted header and
the recipient. Texts that only the primitives look into are values of `T`, and the JSON of
a whole event is a value of `J`.
-/

namespace NostrDoubleRatchet

structure SignedEvent (K T : Type) where
  id : K
  pubkey : K
  createdAt : UnixSeconds
  kind : Nat
  tags : List (List T)
  content : T
  sig : T
  deriving DecidableEq

/-- Event ids, tags, key texts and JSON. `zeroKey` is 32 zero bytes, `text` a literal and
`keyText` the hexadecimal text of a key; `textLength` and `jsonLength` count bytes. -/
class EventCodec (K : Type) (T J : outParam Type) where
  zeroKey : K
  text : String → T
  keyText : K → T
  parseKey : T → Except String K
  parseTag : List T → Except String (List T)
  eventId : K → UnixSeconds → Nat → List (List T) → T → K
  eventToJson : SignedEvent K T → Except String J
  eventFromJson : J → Except String (SignedEvent K T)
  inviteToJson : Invite K T → Except String J
  filterToJson : Nat → List K → Except String T
  textLength : T → Nat
  jsonLength : J → Nat
  handshakeDigest : K → K → K → UnixSeconds → K → K

def MESSAGE_EVENT_KIND : Nat := 1060
def INVITE_RESPONSE_KIND : Nat := 1059

section

variable {K T J : Type} [LinearOrder K] [DecidableEq T] [Primitives K T] [InvitePrimitives K T]
  [EventCodec K T J]

namespace SignedEvent

/-- `Event::verify`: the id is the hash of the event and the author signed it. -/
def verify (event : SignedEvent K T) : Except Error Unit :=
  if EventCodec.eventId event.pubkey event.createdAt event.kind event.tags event.content ≠
      event.id then .error (.nostr "invalid id")
  else if !InvitePrimitives.verifySchnorr event.sig event.id event.pubkey then
    .error (.nostr "invalid signature")
  else .ok ()

def hasMetadataPrivacyVersion (event : SignedEvent K T) : Bool :=
  event.tags.filter (fun tag => tag.head? = some (EventCodec.text K "v")) =
    [[EventCodec.text K "v", EventCodec.text K "2"]]

def optionalTagValue (event : SignedEvent K T) (key : String) : Option T :=
  (event.tags.find? (fun tag => tag.head? = some (EventCodec.text K key))).bind (fun tag => tag[1]?)

def requiredTagValue (event : SignedEvent K T) (key : String) : Except Error T :=
  match event.optionalTagValue key with
  | some value => .ok value
  | none => .error (.invalidEvent s!"missing `{key}` tag")

end SignedEvent

def requirePrivacyVersion (version : Nat) : Except Error Unit :=
  if version ≠ METADATA_PRIVACY_VERSION then
    .error (.invalidEvent "protocol requires a new private handshake")
  else .ok ()

def requirePrivateEvent (event : SignedEvent K T) : Except Error Unit :=
  if !event.hasMetadataPrivacyVersion then
    .error (.invalidEvent "event requires a privacy upgrade")
  else .ok ()

def verifyEventKind (event : SignedEvent K T) (expectedKind : Nat) : Except Error Unit :=
  if event.kind ≠ expectedKind then
    .error (.invalidEvent s!"unexpected kind {event.kind}, expected {expectedKind}")
  else .ok ()

def parseDevicePubkey (value : T) : Except Error (DevicePubkey K) := do
  let pubkey ← (EventCodec.parseKey value).mapError Error.nostrKey
  pure ⟨pubkey⟩

def wireTag (parts : List T) : Except Error (List T) :=
  (EventCodec.parseTag K parts).mapError Error.invalidEvent

/-- Build an event of the signer and sign it; `aux` is the randomness of the signature. -/
def signWithKeys (secret pubkey : K) (createdAt : UnixSeconds) (kind : Nat)
    (tags : List (List T)) (content : T) (aux : K) : SignedEvent K T :=
  let id := EventCodec.eventId pubkey createdAt kind tags content
  { id := id
    pubkey := pubkey
    createdAt := createdAt
    kind := kind
    tags := tags
    content := content
    sig := InvitePrimitives.signSchnorr secret id aux }

/-- The signing key of an envelope, when it is the sender's. -/
def envelopeSigner (signerSecretKey : K) (sender : DevicePubkey K) : Except Error K := do
  let authorSecretKey ← secretKeyFromBytes signerSecretKey
  if DevicePubkey.mk (Primitives.publicKey authorSecretKey) ≠ sender then
    .error (.invalidEvent "sender does not match signer secret")
  else .ok authorSecretKey

def messageEvent (envelope : MessageEnvelope K T) (aux : K) :
    Except Error (SignedEvent K T) := do
  requirePrivacyVersion envelope.metadataPrivacyVersion
  let secret ← envelopeSigner envelope.signerSecretKey envelope.sender
  let version ← wireTag (K := K) [EventCodec.text K "v", EventCodec.text K "2"]
  let header ← wireTag (K := K) [EventCodec.text K "header", envelope.encryptedHeader]
  let recipient ← (envelope.recipient.toList.mapM (fun recipient =>
    wireTag (K := K) [EventCodec.text K "p", EventCodec.keyText recipient.bytes]))
  let pubkey ← (Primitives.publicKeyFromSlice envelope.sender.bytes).mapError Error.nostrKey
  pure (signWithKeys secret pubkey envelope.createdAt MESSAGE_EVENT_KIND
    ([version, header] ++ recipient) envelope.ciphertext aux)

/-- The signing key does not travel; zeros stand in its field. -/
def parseMessageEvent (event : SignedEvent K T) :
    Except Error (MessageEnvelope K T) := do
  requirePrivateEvent event
  verifyEventKind event MESSAGE_EVENT_KIND
  event.verify
  let encryptedHeader ← event.requiredTagValue "header"
  if encryptedHeader = EventCodec.text K "" then
    .error (.invalidEvent "empty `header` tag")
  else do
    let recipient ← ((event.optionalTagValue "p").mapM parseDevicePubkey :
      Except Error (Option (DevicePubkey K)))
    pure {
      metadataPrivacyVersion := METADATA_PRIVACY_VERSION
      sender := ⟨event.pubkey⟩
      recipient := recipient
      signerSecretKey := EventCodec.zeroKey
      createdAt := event.createdAt
      encryptedHeader := encryptedHeader
      ciphertext := event.content }

def inviteResponseEvent (envelope : InviteResponseEnvelope K T) (aux : K) :
    Except Error (SignedEvent K T) := do
  requirePrivacyVersion envelope.metadataPrivacyVersion
  let secret ← envelopeSigner envelope.signerSecretKey envelope.sender
  let version ← wireTag (K := K) [EventCodec.text K "v", EventCodec.text K "2"]
  let recipient ← wireTag (K := K)
    [EventCodec.text K "p", EventCodec.keyText envelope.recipient.bytes]
  let pubkey ← (Primitives.publicKeyFromSlice envelope.sender.bytes).mapError Error.nostrKey
  pure (signWithKeys secret pubkey envelope.createdAt INVITE_RESPONSE_KIND
    [version, recipient] envelope.content aux)

def parseInviteResponseEvent (event : SignedEvent K T) :
    Except Error (InviteResponseEnvelope K T) := do
  requirePrivateEvent event
  verifyEventKind event INVITE_RESPONSE_KIND
  event.verify
  let value ← event.requiredTagValue "p"
  let recipient ← parseDevicePubkey value
  pure {
    metadataPrivacyVersion := METADATA_PRIVACY_VERSION
    sender := ⟨event.pubkey⟩
    signerSecretKey := EventCodec.zeroKey
    recipient := recipient
    createdAt := event.createdAt
    content := event.content }

end

end NostrDoubleRatchet
