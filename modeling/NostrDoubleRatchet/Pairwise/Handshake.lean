import NostrDoubleRatchet.InviteUses
import NostrDoubleRatchet.Pairwise.Journal
import NostrDoubleRatchet.Session.Progress

/-!
The session an invite makes: accepting it starts the initiator's.
-/

namespace NostrDoubleRatchet

set_option linter.unusedSectionVars false

section

variable {K T J P : Type} [LinearOrder K] [DecidableEq T] [DecidableEq J] [Primitives K T]
  [InvitePrimitives K T] [PairwiseCodec.RumorPrimitives K T] [EventCodec K T J]
  [StateSeal K T J P]

namespace Invite

theorem acceptWithOwnerContext_ok {invite : Invite K T} {now : UnixSeconds}
    {invitee : DevicePubkey K} {secret : K} {owner : Option (OwnerPubkey K)}
    {session : Session K} {envelope : InviteResponseEnvelope K T} {rng rng' : Rng K}
    (h : invite.acceptWithOwnerContext now invitee secret owner rng =
      (.ok (session, envelope), rng')) :
    invite.metadataPrivacyVersion = METADATA_PRIVACY_VERSION ∧ ∃ sessionKey before after,
      Session.newInitiator invite.inviterEphemeralPublicKey sessionKey invite.sharedSecret
        before = (.ok session, after) := by
  unfold acceptWithOwnerContext at h
  split at h
  · cases h
  rename_i hversion
  refine ⟨not_not.mp hversion, ?_⟩
  obtain ⟨⟨⟩, r1, -, h1⟩ := RandM.bind_eq_ok.mp h
  obtain ⟨sessionKey, r2, -, h2⟩ := RandM.bind_eq_ok.mp h1
  obtain ⟨sessionPublicKey, r3, -, h3⟩ := RandM.bind_eq_ok.mp h2
  obtain ⟨sessionSecret, r4, -, h4⟩ := RandM.bind_eq_ok.mp h3
  obtain ⟨aux, r5, -, h5⟩ := RandM.bind_eq_ok.mp h4
  obtain ⟨made, r6, hsession, h6⟩ := RandM.bind_eq_ok.mp h5
  obtain ⟨inviteeSk, r7, -, h7⟩ := RandM.bind_eq_ok.mp h6
  obtain ⟨inviterKey, r8, -, h8⟩ := RandM.bind_eq_ok.mp h7
  obtain ⟨json, r9, -, h9⟩ := RandM.bind_eq_ok.mp h8
  obtain ⟨nonce1, r10, -, h10⟩ := RandM.bind_eq_ok.mp h9
  obtain ⟨dhEncrypted, r11, -, h11⟩ := RandM.bind_eq_ok.mp h10
  obtain ⟨nonce2, r12, -, h12⟩ := RandM.bind_eq_ok.mp h11
  obtain ⟨encryptedBytes, r13, -, h13⟩ := RandM.bind_eq_ok.mp h12
  obtain ⟨inviteeKey, r14, -, h14⟩ := RandM.bind_eq_ok.mp h13
  obtain ⟨senderSecret, r15, -, h15⟩ := RandM.bind_eq_ok.mp h14
  obtain ⟨senderPubkey, r16, -, h16⟩ := RandM.bind_eq_ok.mp h15
  obtain ⟨sender, r17, -, h17⟩ := RandM.bind_eq_ok.mp h16
  obtain ⟨ephemeralKey, r18, -, h18⟩ := RandM.bind_eq_ok.mp h17
  obtain ⟨innerJson, r19, -, h19⟩ := RandM.bind_eq_ok.mp h18
  obtain ⟨nonce3, r20, -, h20⟩ := RandM.bind_eq_ok.mp h19
  obtain ⟨content, r21, -, h21⟩ := RandM.bind_eq_ok.mp h20
  obtain ⟨jitter, r22, -, h22⟩ := RandM.bind_eq_ok.mp h21
  cases h22
  exact ⟨sessionKey, r5, r6, hsession⟩

end Invite

end

end NostrDoubleRatchet
