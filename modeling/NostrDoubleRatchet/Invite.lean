import NostrDoubleRatchet.Session.State

/-!
Invites as in `invite.rs`: creating one, accepting it with a new initiator session,
and processing the response into the responder session.
-/

namespace NostrDoubleRatchet

structure Invite (K T : Type) where
  metadataPrivacyVersion : Nat
  inviterDevicePubkey : DevicePubkey K
  inviterEphemeralPublicKey : DevicePubkey K
  sharedSecret : K
  inviterEphemeralPrivateKey : Option K
  maxUses : Option Nat
  usedBy : List (DevicePubkey K)
  usedResponseContents : List T
  createdAt : UnixSeconds
  inviterOwnerPubkey : Option (OwnerPubkey K)
  purpose : Option String
  inviter : K
  deviceId : Option String
  ownerPublicKey : Option K
  deriving DecidableEq

structure InviteResponseEnvelope (K T : Type) where
  metadataPrivacyVersion : Nat
  sender : DevicePubkey K
  signerSecretKey : K
  recipient : DevicePubkey K
  createdAt : UnixSeconds
  content : T
  deriving DecidableEq

structure InviteResponsePayload (K T : Type) where
  sessionKey : DevicePubkey K
  sessionProof : T
  deviceId : Option String
  ownerPubkey : Option (OwnerPubkey K)

structure InviteResponseRumor (K T : Type) where
  id : K
  pubkey : K
  createdAt : UnixSeconds
  kind : Nat
  tags : List (List String)
  content : T

structure InviteResponse (K : Type) [LinearOrder K] where
  session : Session K
  inviteeDevicePubkey : DevicePubkey K
  inviteeOwnerPubkey : Option (OwnerPubkey K)
  inviteeIdentity : K
  deviceId : Option String
  ownerPublicKey : Option K

/-- Schnorr signatures, JSON and the order of texts. `rumorId` is the hash a rumor
without its id has. -/
class InvitePrimitives (K : Type) (T : outParam Type) where
  signSchnorr : K → K → K → T
  verifySchnorr : T → K → K → Bool
  payloadToJson : InviteResponsePayload K T → Except String T
  payloadFromJson : T → Except String (InviteResponsePayload K T)
  rumorId : K → UnixSeconds → Nat → List (List String) → T → K
  rumorToJson : InviteResponseRumor K T → Except String T
  rumorFromJson : T → Except String (InviteResponseRumor K T)
  stringFromUtf8 : T → Except String T
  textLe : T → T → Bool

/-- The text of the `secp256k1` error for bytes that are no point. -/
def malformedPublicKey : String := "malformed public key"

def INVITE_RESPONSE_INNER_RUMOR_KIND : Nat := 1060

def SESSION_PROOF_DOMAIN : String := "NIP-118/session-proof/v1"

section

variable {K T : Type} [LinearOrder K] [DecidableEq T] [Primitives K T] [InvitePrimitives K T]

def inviteSessionProofDigest (inviterIdentity inviterEphemeral inviteeIdentity sessionKey :
    DevicePubkey K) (sharedSecret : K) : K :=
  Primitives.sha256 SESSION_PROOF_DOMAIN
    [inviterIdentity.bytes, inviterEphemeral.bytes, inviteeIdentity.bytes, sessionKey.bytes,
      sharedSecret]

def validateInviteResponseInnerRumor (rumor : InviteResponseRumor K T) : Except Error Unit :=
  if InvitePrimitives.rumorId rumor.pubkey rumor.createdAt rumor.kind rumor.tags rumor.content ≠
      rumor.id then .error (.nostr "invalid id")
  else if rumor.kind ≠ INVITE_RESPONSE_INNER_RUMOR_KIND then
    .error (.parse "invalid invite response rumor kind")
  else if rumor.tags ≠ [] then
    .error (.parse "invite response rumor tags must be empty")
  else .ok ()

namespace Invite

def createNewWithContext (now : UnixSeconds) (inviterDevicePubkey : DevicePubkey K)
    (inviterOwnerPubkey : Option (OwnerPubkey K)) (maxUses : Option Nat) :
    RandM K (Invite K T) := do
  let inviterEphemeralPrivateKey ← randomSecretKeyBytes
  let inviterEphemeralPublicKey ← devicePubkeyFromSecretBytes inviterEphemeralPrivateKey
  let sharedSecret ← randomSecretKeyBytes
  let inviter ← inviterDevicePubkey.toNostr
  let ownerPublicKey ←
    (inviterOwnerPubkey.mapM OwnerPubkey.toNostr : Except Error (Option K))
  pure {
    metadataPrivacyVersion := METADATA_PRIVACY_VERSION
    inviterDevicePubkey := inviterDevicePubkey
    inviterEphemeralPublicKey := inviterEphemeralPublicKey
    sharedSecret := sharedSecret
    inviterEphemeralPrivateKey := some inviterEphemeralPrivateKey
    maxUses := maxUses
    usedBy := []
    usedResponseContents := []
    createdAt := now
    inviterOwnerPubkey := inviterOwnerPubkey
    purpose := none
    inviter := inviter
    deviceId := none
    ownerPublicKey := ownerPublicKey }

def ensureAcceptAllowed (invite : Invite K T) (inviteePublicKey : DevicePubkey K) :
    Except Error Unit :=
  if inviteePublicKey ∈ invite.usedBy then .ok ()
  else if invite.maxUses.any (fun maxUses => invite.usedBy.length ≥ maxUses) then
    .error (.domain .inviteExhausted)
  else .ok ()

def recordUse (invite : Invite K T) (inviteePublicKey : DevicePubkey K) : Invite K T :=
  if inviteePublicKey ∈ invite.usedBy then invite
  else { invite with
    usedBy := (invite.usedBy ++ [inviteePublicKey]).mergeSort (fun a b => a ≤ b) }

def recordResponseContent (invite : Invite K T) (content : T) : Invite K T :=
  if content ∈ invite.usedResponseContents then invite
  else { invite with
    usedResponseContents :=
      (invite.usedResponseContents ++ [content]).mergeSort (InvitePrimitives.textLe K) }

/-- `accept_with_owner_context`, with no device id. -/
def acceptWithOwnerContext (invite : Invite K T) (now : UnixSeconds)
    (inviteePublicKey : DevicePubkey K) (inviteePrivateKey : K)
    (inviteeOwnerPubkey : Option (OwnerPubkey K)) :
    RandM K (Session K × InviteResponseEnvelope K T) :=
  if invite.metadataPrivacyVersion ≠ METADATA_PRIVACY_VERSION then
    throw (.invite "invite requires a privacy upgrade")
  else do
    invite.ensureAcceptAllowed inviteePublicKey
    let inviteeSessionKey ← randomSecretKeyBytes
    let inviteeSessionPublicKey ← devicePubkeyFromSecretBytes inviteeSessionKey
    let proofDigest := inviteSessionProofDigest invite.inviterDevicePubkey
      invite.inviterEphemeralPublicKey inviteePublicKey inviteeSessionPublicKey
      invite.sharedSecret
    let sessionSecret ← secretKeyFromBytes inviteeSessionKey
    let sessionProof :=
      InvitePrimitives.signSchnorr sessionSecret proofDigest (← randomAux)
    let session ← Session.newInitiator invite.inviterEphemeralPublicKey inviteeSessionKey
      invite.sharedSecret
    let payload : InviteResponsePayload K T := {
      sessionKey := inviteeSessionPublicKey
      sessionProof := sessionProof
      deviceId := none
      ownerPubkey := inviteeOwnerPubkey }
    let inviteeSk ← secretKeyFromBytes inviteePrivateKey
    let inviterKey ← invite.inviterDevicePubkey.toNostr
    let json ← (InvitePrimitives.payloadToJson payload).mapError Error.json
    let dhEncrypted ← (Primitives.nip44Encrypt inviteeSk inviterKey (← randomNonce)
      json).mapError Error.nip44
    let encryptedBytes ← (Primitives.encryptToBytes invite.sharedSecret (← randomNonce)
      dhEncrypted).mapError Error.nip44
    let inviteeKey ← inviteePublicKey.toNostr
    let content := Primitives.base64Encode K encryptedBytes
    let innerEvent : InviteResponseRumor K T := {
      id := InvitePrimitives.rumorId inviteeKey now INVITE_RESPONSE_INNER_RUMOR_KIND [] content
      pubkey := inviteeKey
      createdAt := now
      kind := INVITE_RESPONSE_INNER_RUMOR_KIND
      tags := []
      content := content }
    let randomSenderSecret ← randomSecretKeyBytes
    let randomSenderPubkey ← devicePubkeyFromSecretBytes randomSenderSecret
    let randomSender ← secretKeyFromBytes randomSenderSecret
    let ephemeralKey ← invite.inviterEphemeralPublicKey.toNostr
    let innerJson ← (InvitePrimitives.rumorToJson innerEvent).mapError Error.nostr
    let envelopeContent ← (Primitives.nip44Encrypt randomSender ephemeralKey (← randomNonce)
      innerJson).mapError Error.nip44
    let jitter ← (if now = 0 then pure 0
      else do
        let word ← nextU64
        pure (word % (2 * 24 * 60 * 60)) : RandM K Nat)
    pure (session, {
      metadataPrivacyVersion := METADATA_PRIVACY_VERSION
      sender := randomSenderPubkey
      signerSecretKey := randomSenderSecret
      recipient := invite.inviterEphemeralPublicKey
      createdAt := now - jitter
      content := envelopeContent })

/-- The owner key a response claims must be a point on the curve. -/
def readOwnerPublicKey (owner : OwnerPubkey K) : Except Error K := do
  let publicKey ← (Primitives.publicKeyFromSlice owner.bytes).mapError
    (fun error => Error.parse s!"invalid owner pubkey: {error}")
  if Primitives.xonlyIsValid publicKey then .ok publicKey
  else .error (.parse s!"invalid owner pubkey: {malformedPublicKey}")

def processResponse (invite : Invite K T) (envelope : InviteResponseEnvelope K T)
    (inviterPrivateKey : K) : RandM K (InviteResponse K × Invite K T) :=
  if envelope.metadataPrivacyVersion ≠ METADATA_PRIVACY_VERSION then
    throw (.invite "invite response requires a privacy upgrade")
  else
    match invite.inviterEphemeralPrivateKey with
    | none => throw (.parse "ephemeral key not available")
    | some inviterEphemeralPrivateKey => do
        let inviterEphemeralSk ← secretKeyFromBytes inviterEphemeralPrivateKey
        let senderKey ← envelope.sender.toNostr
        let decrypted ← (Primitives.nip44Decrypt inviterEphemeralSk senderKey
          envelope.content).mapError Error.nip44
        let innerEvent ← (InvitePrimitives.rumorFromJson decrypted).mapError Error.json
        validateInviteResponseInnerRumor innerEvent
        let ciphertextBytes ←
          (Primitives.base64Decode K innerEvent.content).mapError Error.decryption
        let dhBytes ← (Primitives.decryptToBytes invite.sharedSecret
          ciphertextBytes).mapError Error.nip44
        let dhCiphertext ← (InvitePrimitives.stringFromUtf8 K dhBytes).mapError Error.decryption
        let inviterSk ← secretKeyFromBytes inviterPrivateKey
        let dhDecrypted ← (Primitives.nip44Decrypt inviterSk innerEvent.pubkey
          dhCiphertext).mapError Error.nip44
        let payload ← (InvitePrimitives.payloadFromJson dhDecrypted).mapError Error.json
        if envelope.content ∈ invite.usedResponseContents then
          throw (.domain .inviteAlreadyUsed)
        else do
          let ownerPublicKey ←
            (payload.ownerPubkey.mapM readOwnerPublicKey : Except Error (Option K))
          let inviteeDevicePubkey : DevicePubkey K := ⟨innerEvent.pubkey⟩
          invite.ensureAcceptAllowed inviteeDevicePubkey
          let proofDigest := inviteSessionProofDigest invite.inviterDevicePubkey
            invite.inviterEphemeralPublicKey inviteeDevicePubkey payload.sessionKey
            invite.sharedSecret
          let sessionPublicKey ← payload.sessionKey.toNostr
          if !Primitives.xonlyIsValid sessionPublicKey then
            throw (.parse s!"invalid session key: {malformedPublicKey}")
          else if !InvitePrimitives.verifySchnorr payload.sessionProof proofDigest
              sessionPublicKey then
            throw (.parse "invalid invite session proof")
          else do
            let session ← Session.newResponder payload.sessionKey inviterEphemeralPrivateKey
              invite.sharedSecret
            pure ({
              session := session
              inviteeDevicePubkey := inviteeDevicePubkey
              inviteeOwnerPubkey := payload.ownerPubkey
              inviteeIdentity := innerEvent.pubkey
              deviceId := payload.deviceId
              ownerPublicKey := ownerPublicKey },
              (invite.recordUse inviteeDevicePubkey).recordResponseContent envelope.content)

end Invite

end

end NostrDoubleRatchet
