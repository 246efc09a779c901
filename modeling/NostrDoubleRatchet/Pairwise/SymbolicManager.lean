import NostrDoubleRatchet.Symbolic
import NostrDoubleRatchet.Pairwise.Opening
import NostrDoubleRatchet.Pairwise.RoundTrip
import NostrDoubleRatchet.Session.Progress

/-!
Pairwise managers over the free term algebra. The JSON of an event is the event, a sealed
state is the state under its key, and sizes are those of the texts the codec writes.
-/

namespace NostrDoubleRatchet

namespace Symbolic

open PairwiseCodec

/-- The JSON texts the manager handles whole. -/
inductive PairwiseJson where
  | event (event : SignedEvent KeyTerm TextTerm)
  | invite (invite : Invite KeyTerm TextTerm)
  deriving DecidableEq

structure SealedState where
  key : KeyTerm
  nonce : KeyTerm
  state : PairwiseState KeyTerm TextTerm PairwiseJson
  deriving DecidableEq

/-- A key that stands for a text. -/
def textKey : TextTerm → KeyTerm
  | .bytes content => .digest content
  | .sealed key nonce body => .absorb (.absorb key nonce) (textKey body)
  | .base64 body => .absorb (.digest "base64") (textKey body)
  | .header header => .expandByte header.nextPublicKey.bytes header.number
      header.previousChainLength
  | .signature secret digest aux => .absorb (.absorb secret digest) aux
  | .payload sessionKey proof _ owner =>
      .absorb (.absorb sessionKey (textKey proof)) (owner.getD (.digest "none"))
  | .rumor id _ _ _ _ _ => .absorb (.digest "rumor") id

def textLength : TextTerm → Nat
  | .bytes content => content.utf8ByteSize
  | .payload _ rest _ _ => 67 + textLength rest
  | .rumor _ _ _ _ _ content => 250 + textLength content
  | .sealed _ _ body => 65 + textLength body
  | .base64 body => 4 * ((textLength body + 2) / 3)
  | .header _ => 150
  | .signature .. => 128

/-- The payload of a rumor. One without an id is kept apart from those that have one. -/
def rumorToJson (event : UnsignedEvent KeyTerm) : TextTerm :=
  match event.id with
  | some id => .rumor id event.pubkey event.createdAt.toNat event.kind event.tags
      (.bytes event.content)
  | none => .base64 (.rumor event.pubkey event.pubkey event.createdAt.toNat event.kind event.tags
      (.bytes event.content))

def rumorFromJson : TextTerm → Except String (UnsignedEvent KeyTerm)
  | .rumor id pubkey createdAt kind tags (.bytes content) =>
      .ok ⟨some id, pubkey, UInt64.ofNat createdAt, kind, tags, content⟩
  | .base64 (.rumor _ pubkey createdAt kind tags (.bytes content)) =>
      .ok ⟨none, pubkey, UInt64.ofNat createdAt, kind, tags, content⟩
  | _ => .error "invalid json"

@[reducible] def pairwiseRumors : RumorPrimitives KeyTerm TextTerm where
  eventId pubkey createdAt kind tags content :=
    .absorb (.absorb (.expandByte pubkey createdAt.toNat kind) (tagsTerm tags)) (.digest content)
  parseTag parts := .ok parts
  eventToJson event := .ok (rumorToJson event)
  strictRumorFromJson := rumorFromJson
  settingsToJson := settingsToJson
  valueFromJson := valueFromJson

instance eventCodec : EventCodec KeyTerm TextTerm PairwiseJson where
  zeroKey := .digest "zero"
  text := TextTerm.bytes
  keyText key := .payload key (.bytes "") none none
  parseKey
    | .payload key (.bytes "") none none => .ok key
    | _ => .error "invalid public key"
  parseTag parts := .ok parts
  eventId pubkey createdAt kind tags content :=
    (tags.map (fun tag => (tag.map textKey).foldl KeyTerm.absorb (.digest "tag"))).foldl
      KeyTerm.absorb (.absorb (.expandByte pubkey createdAt kind) (textKey content))
  eventToJson event := .ok (.event event)
  eventFromJson
    | .event event => .ok event
    | .invite _ => .error "invalid json"
  inviteToJson invite := .ok (.invite invite)
  filterToJson kind authors := .ok (authors.foldr (fun author rest =>
    .payload author rest none none) (.bytes (toString kind)))
  textLength := textLength
  jsonLength _ := 600
  handshakeDigest device ephemeral secret createdAt invitee :=
    .expandByte (.absorb (.absorb (.absorb device ephemeral) secret) invitee) createdAt 0

instance stateSeal : StateSeal KeyTerm TextTerm PairwiseJson SealedState where
  sealBytes key nonce state := .ok ⟨key, nonce, state⟩
  openBytes key payload :=
    if payload.key = key then .ok payload.state
    else .error (.corruptState "state does not open")
  payloadLength _ := 1000
  isLegacyStatePayload _ := false

theorem storageLaws : StorageLaws KeyTerm TextTerm PairwiseJson SealedState where
  open_sealed identityKeys nonce state payload h := by
    cases h
    exact if_pos rfl
  current identityKeys nonce state payload h := rfl
  filter authors := ⟨_, rfl⟩

theorem derivationLaws : DerivationLaws KeyTerm (sizeOf : KeyTerm → Nat) where
  hkdf_inj {a b s t i j} h := by
    cases s with
    | byte value =>
        cases t with
        | byte value' =>
            obtain ⟨rfl, rfl, rfl⟩ := KeyTerm.expandByte.inj h
            exact ⟨rfl, rfl, rfl⟩
        | label text => cases h
        | key bytes => cases h
    | label text =>
        cases t with
        | label text' =>
            obtain ⟨rfl, rfl, rfl⟩ := KeyTerm.expandLabel.inj h
            exact ⟨rfl, rfl, rfl⟩
        | byte value => cases h
        | key bytes => cases h
    | key bytes =>
        cases t with
        | key bytes' =>
            obtain ⟨rfl, rfl, rfl⟩ := KeyTerm.expandKey.inj h
            exact ⟨rfl, rfl, rfl⟩
        | byte value => cases h
        | label text => cases h
  hkdf_rank key salt index := by
    cases salt with
    | byte value =>
        change sizeOf key < sizeOf (KeyTerm.expandByte key value index)
        rw [KeyTerm.expandByte.sizeOf_spec]
        omega
    | label text =>
        change sizeOf key < sizeOf (KeyTerm.expandLabel key text index)
        rw [KeyTerm.expandLabel.sizeOf_spec]
        omega
    | key bytes =>
        change sizeOf key < sizeOf (KeyTerm.expandKey key bytes index)
        rw [KeyTerm.expandKey.sizeOf_spec]
        omega

/-- A generator whose secrets are numbered from `base`. -/
def numberedRng (base : Nat) : Rng KeyTerm where
  secretKeys i := .secret (base + i)
  words _ := 0
  aux i := .digest (toString (base + i))
  nonces i := .digest (toString (base + i))

/-- A world with an empty store that never fails, unless `faults` says so. -/
def pairwiseWorld (base : Nat) (faults : Nat → Bool) : PairwiseWorld KeyTerm SealedState where
  rng := numberedRng base
  uuids i := "uuid-" ++ toString i
  store := StoredValue.empty
  faults := faults

/-- The public key of the numbered identity. -/
def identity (number : Nat) : KeyTerm := .point (.secret number)

/-- An invite of the numbered identity, as its peer reads it from a link. -/
def pairwiseInvite (number : Nat) (createdAt : UnixSeconds) : Invite KeyTerm TextTerm where
  metadataPrivacyVersion := METADATA_PRIVACY_VERSION
  inviterDevicePubkey := ⟨identity number⟩
  inviterEphemeralPublicKey := ⟨.point (.secret (number + 50))⟩
  sharedSecret := .secret (number + 70)
  inviterEphemeralPrivateKey := none
  maxUses := none
  usedBy := []
  usedResponseContents := []
  createdAt := createdAt
  inviterOwnerPubkey := some ⟨identity number⟩
  purpose := none
  inviter := identity number
  deviceId := none
  ownerPublicKey := some (identity number)

end Symbolic

end NostrDoubleRatchet
