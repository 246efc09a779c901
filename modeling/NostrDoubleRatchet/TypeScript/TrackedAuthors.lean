import NostrDoubleRatchet.Lib.SortedSet
import NostrDoubleRatchet.TypeScript.Conversation

/-!
The public keys the TypeScript client subscribes to for a session, and that they cover the author
of every event of the peer that this side has not accepted.
-/

namespace NostrDoubleRatchet.TypeScript.DoubleRatchet

open KeySchedule

section

variable {K : Type} [LinearOrder K]

/-- `messageAuthors.ts`: the public keys the client subscribes to for a session. -/
def sessionMessageAuthorPubkeys (state : SessionState K) : List (DevicePubkey K) :=
  if state.metadataPrivacyVersion ≠ some METADATA_PRIVACY_VERSION then []
  else (SortedSet.ofList (state.theirCurrentNostrPublicKey.toList ++
    [state.theirNextNostrPublicKey] ++ state.skippedKeys.keys)).toList

end

namespace Conversation

section

variable {K T : Type} [LinearOrder K] [Primitives K T] {secrets : Nat → K} {shared : K}
  {lengths : Nat → Nat} {phase received : Party → Nat} {codec : RumorCodec T}
  {x : Conversation K T}

/-! The authors a client subscribes to. -/

theorem mem_sessionMessageAuthorPubkeys {state : SessionState K}
    (hversion : state.metadataPrivacyVersion = some METADATA_PRIVACY_VERSION)
    {author : DevicePubkey K} : author ∈ sessionMessageAuthorPubkeys state ↔
      state.theirCurrentNostrPublicKey = some author ∨ state.theirNextNostrPublicKey = author ∨
        (state.skippedKeys.get? author).isSome = true := by
  unfold sessionMessageAuthorPubkeys
  rw [if_neg (not_not_intro hversion), SortedSet.mem_toList, SortedSet.mem_ofList,
    List.mem_append, List.mem_append, List.mem_singleton, Option.mem_toList, SortedMap.mem_keys,
    Option.isSome_iff_exists, or_assoc, eq_comm (a := author)]

/-- The author of an event the peer has sent and this side has not accepted is among them. -/
theorem Consistent.author_tracked (h : Consistent secrets shared lengths phase received codec x)
    {party : Party} {index : Nat} {m : SentEvent K T} (hm : x.sent[index]? = some m)
    (hauthor : m.author = party.other) (hunaccepted : index ∉ x.accepted) :
    m.event.pubkey ∈ sessionMessageAuthorPubkeys (x.states party) := by
  have hat := h.atPhase party
  obtain ⟨c, hsent⟩ := h.sent m (List.mem_of_getElem? hm)
  obtain ⟨hle, hparity⟩ := h.chain_le hsent
  rw [hauthor, other_other] at hle hparity
  rw [mem_sessionMessageAuthorPubkeys hat.version, hat.theirCurrent, hat.theirNext,
    hsent.event.sender]
  by_cases hnext : c = phase party
  · exact .inr (.inl (congrArg (pubkey secrets) hnext.symm))
  · by_cases hcurrent : c + 2 = phase party
    · refine .inl ?_
      rw [back_eq_some.mpr hcurrent, Option.map_some]
    · refine .inr (.inr ?_)
      have hunaccepted' : ¬ x.acceptedAt (pubkey secrets c) m.header.number := by
        rw [← hsent.event.sender]
        exact fun haccepted => hunaccepted ((h.acceptedAt_iff hm).mp haccepted)
      have hkept := (h.stores party).kept c m.header.number hparity
        (.inl ⟨by omega, hsent.number⟩) hunaccepted'
      obtain ⟨skippedKeys, hget, -⟩ := Option.bind_eq_some_iff.mp hkept
      rw [hget]
      rfl

/-- The author of the next event the peer would send is among them. -/
theorem Consistent.next_author_tracked (hlaws : SymbolicLaws K)
    (h : Consistent secrets shared lengths phase received codec x) {party : Party}
    {codec : RumorCodec T} {event : PartialEvent} {outerTags : List (List String)} {now : Nat}
    {bodyNonce headerNonce : K} {sent : MessageEvent K T × JsonValue} {next : SessionState K}
    (hsend : sendEvent codec (x.states party.other) event outerTags now bodyNonce headerNonce =
      (.ok sent, next)) :
    sent.1.pubkey ∈ sessionMessageAuthorPubkeys (x.states party) := by
  have hat := h.atPhase party
  have hadjacent := h.adjacent party
  have hadjacent' := h.adjacent party.other
  rw [other_other] at hadjacent'
  have hparity := h.parity party
  obtain ⟨-, hno⟩ | ⟨c, hc, -, -, hevent⟩ := sendEvent_honest hlaws h.distinct
    (h.atPhase party.other) (lt_drawn phase party.other) codec event outerTags now bodyNonce
    headerNonce hsend
  · exact absurd rfl (hno _)
  · rw [mem_sessionMessageAuthorPubkeys hat.version, hat.theirCurrent, hat.theirNext,
      (hevent _ rfl).2.sender]
    by_cases hnext : c = phase party
    · exact .inr (.inl (congrArg (pubkey secrets) hnext.symm))
    · refine .inl ?_
      rw [back_eq_some.mpr (by omega : c + 2 = phase party), Option.map_some]

/-- In every state two sessions reach, a client that subscribes to the authors of its session
hears of every event its peer has sent and it has not accepted, and of the next one. -/
theorem peer_authors_tracked (hlaws : SymbolicLaws K)
    {inviteSecret initiatorSecret shared first unused : K} {start : Conversation K T}
    (hstart : Started inviteSecret initiatorSecret shared first unused start)
    (hfresh : FreshStart initiatorSecret first start) (codec : RumorCodec T)
    (steps : List (ConversationStep K)) (party : Party) :
    (∀ (index : Nat) message, (start.run codec steps).sent[index]? = some message →
      message.author = party.other → index ∉ (start.run codec steps).accepted →
      message.event.pubkey ∈
        sessionMessageAuthorPubkeys ((start.run codec steps).states party)) ∧
    ∀ event outerTags now bodyNonce headerNonce sent next,
      sendEvent codec ((start.run codec steps).states party.other) event outerTags now bodyNonce
        headerNonce = (.ok sent, next) →
      sent.1.pubkey ∈ sessionMessageAuthorPubkeys ((start.run codec steps).states party) := by
  obtain ⟨secrets, hconsistent⟩ := hstart.consistent hlaws hfresh codec
  obtain ⟨secrets', lengths', phase', received', hrun⟩ := hconsistent.run hlaws steps
  constructor
  · intro index message hmessage hauthor hunaccepted
    exact hrun.author_tracked hmessage hauthor hunaccepted
  · intro event outerTags now bodyNonce headerNonce sent next hsend
    exact hrun.next_author_tracked hlaws hsend

end

/-! A message overtaken by one answer and the reply to it. -/

namespace Overtaken

open SymbolicStart

/-- The first message of the initiator never arrives. -/
def steps : List (ConversationStep KeyTerm) :=
  [sendHello .initiator 7, sendHello .initiator 7, receiveAt 1, sendHello .responder 7, receiveAt 2,
    sendHello .initiator 7, receiveAt 3]

theorem overtaken_author_tracked : ⟨.point (.secret 0)⟩ ∈
    sessionMessageAuthorPubkeys ((start.run (codec 7) steps).states .responder) := by
  have haccepted : (start.run (codec 7) steps).accepted = [3, 2, 1] := by
    decide +kernel
  have hsent : (start.run (codec 7) steps).sent[0]?.map (fun m => (m.author, m.event.pubkey)) =
      some (.initiator, ⟨.point (.secret 0)⟩) := by
    decide +kernel
  obtain ⟨m, hm, hpair⟩ := Option.map_eq_some_iff.mp hsent
  obtain ⟨hauthor, hpubkey⟩ := Prod.mk.inj hpair
  have hunaccepted : 0 ∉ (start.run (codec 7) steps).accepted := by
    rw [haccepted]
    decide
  rw [← hpubkey]
  exact (peer_authors_tracked Symbolic.symbolicLaws started freshStart (codec 7) steps .responder).1
    0 m hm hauthor hunaccepted

end Overtaken

end Conversation

end NostrDoubleRatchet.TypeScript.DoubleRatchet
