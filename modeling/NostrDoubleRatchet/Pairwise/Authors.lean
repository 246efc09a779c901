import NostrDoubleRatchet.Pairwise.SessionMoves

/-!
The authors of the message subscription: the keys the peers may send under next. They are
one set, whatever order the sessions are read in, and the subscription can be described
while the set stays within its limit. Sending a message does not change them.
-/

namespace SortedSet

variable {α : Type} [LinearOrder α]

theorem length_le_of_subset {s t : SortedSet α} (h : ∀ a ∈ s, a ∈ t) : s.length ≤ t.length := by
  rw [← length_toList, ← length_toList]
  refine (s.nodup_toList.subperm ?_).length_le
  intro a ha
  exact mem_toList.mpr (h a (mem_toList.mp ha))

theorem extend_append (s : SortedSet α) (items more : List α) :
    (s.extend items).extend more = s.extend (items ++ more) := by
  unfold extend
  rw [List.foldl_append]

end SortedSet

namespace NostrDoubleRatchet

set_option linter.unusedSectionVars false

section

variable {K T J P : Type} [LinearOrder K] [DecidableEq T] [DecidableEq J] [Primitives K T]
  [InvitePrimitives K T] [PairwiseCodec.RumorPrimitives K T] [EventCodec K T J]
  [StateSeal K T J P]

namespace PairwiseState

/-- Every key a peer's sessions accept messages under. -/
def authorSet (state : PairwiseState K T J) : SortedSet K :=
  SortedSet.ofList (state.peers.values.flatMap PeerState.trackedSenderPubkeys)

theorem mem_authorSet {state : PairwiseState K T J} {author : K} :
    author ∈ state.authorSet ↔ ∃ peer peerState, state.peers.get? peer = some peerState ∧
      author ∈ peerState.trackedSenderPubkeys := by
  unfold authorSet
  rw [SortedSet.mem_ofList, List.mem_flatMap]
  constructor
  · rintro ⟨peerState, hvalue, hauthor⟩
    obtain ⟨peer, hget⟩ := SortedMap.mem_values.mp hvalue
    exact ⟨peer, peerState, hget, hauthor⟩
  · rintro ⟨peer, peerState, hget, hauthor⟩
    exact ⟨peerState, SortedMap.mem_values.mpr ⟨peer, hget⟩, hauthor⟩

theorem authorSet_congr {state next : PairwiseState K T J} (h : next.peers = state.peers) :
    next.authorSet = state.authorSet := by
  unfold authorSet
  rw [h]

end PairwiseState

/-- The collecting loop fails as soon as the limit is passed, so when it ends past it. -/
theorem collectAuthors_eq (limits : RuntimeLimits) (peers : List (PeerState K T J))
    (authors : SortedSet K) :
    collectAuthors limits peers authors =
      if peers = [] ∨ (authors.extend (peers.flatMap PeerState.trackedSenderPubkeys)).length ≤
          limits.maxSubscriptionAuthors then
        .ok (authors.extend (peers.flatMap PeerState.trackedSenderPubkeys))
      else .error (.queueFull "subscription-authors") := by
  induction peers generalizing authors with
  | nil => rfl
  | cons peer rest ih =>
      unfold collectAuthors
      dsimp only
      rw [ih, SortedSet.extend_append, List.flatMap_cons]
      have hle : (authors.extend peer.trackedSenderPubkeys).length ≤
          (authors.extend (peer.trackedSenderPubkeys ++
            rest.flatMap PeerState.trackedSenderPubkeys)).length := by
        refine SortedSet.length_le_of_subset fun a ha => ?_
        rw [SortedSet.mem_extend] at ha ⊢
        rw [List.mem_append]
        tauto
      simp only [reduceCtorEq, false_or]
      by_cases hfirst : (authors.extend peer.trackedSenderPubkeys).length >
          limits.maxSubscriptionAuthors
      · rw [if_pos hfirst, if_neg (by omega)]
      · rw [if_neg hfirst]
        cases rest with
        | nil =>
            simp only [List.flatMap_nil, List.append_nil, true_or, if_true]
            rw [if_pos (by omega)]
        | cons other rest => simp

/-- The authors of a state, when they are within the limit. -/
theorem messageAuthors_eq (state : PairwiseState K T J) (limits : RuntimeLimits) :
    messageAuthors state limits =
      if state.authorSet.length ≤ limits.maxSubscriptionAuthors then .ok state.authorSet.toList
      else .error (.queueFull "subscription-authors") := by
  unfold messageAuthors PairwiseState.authorSet SortedSet.ofList
  rw [collectAuthors_eq]
  cases hvalues : state.peers.values with
  | nil =>
      have hzero : (SortedSet.empty.extend ([] : List K)).length ≤
          limits.maxSubscriptionAuthors := Nat.zero_le _
      simp only [List.flatMap_nil, true_or, if_true]
      rw [if_pos hzero]
      rfl
  | cons peer rest =>
      simp only [reduceCtorEq, false_or]
      split
      · rfl
      · rfl

theorem messageAuthors_ok {state : PairwiseState K T J} {limits : RuntimeLimits}
    {authors : List K} (h : messageAuthors state limits = .ok authors) :
    authors = state.authorSet.toList ∧ state.authorSet.length ≤ limits.maxSubscriptionAuthors := by
  rw [messageAuthors_eq] at h
  split at h
  · rename_i hle
    cases h
    exact ⟨rfl, hle⟩
  · cases h

/-! The keys of a session. -/

theorem mem_sessionSenderKeys {state : SessionState K} {device : DevicePubkey K} :
    device ∈ sessionSenderKeys state ↔
      state.metadataPrivacyVersion = METADATA_PRIVACY_VERSION ∧
      (state.theirCurrentNostrPublicKey = some device ∨
        state.theirNextNostrPublicKey = some device ∨ device ∈ state.skippedKeys.keys) := by
  unfold sessionSenderKeys
  by_cases hversion : state.metadataPrivacyVersion = METADATA_PRIVACY_VERSION
  · simp only [hversion, ne_eq, not_true_eq_false, if_false, true_and]
    rw [SortedSet.mem_toList, SortedSet.mem_ofList, List.mem_append, List.mem_append,
      Option.mem_toList, Option.mem_toList]
    exact or_assoc
  · simp [hversion]

theorem mem_trackedSenderPubkeys {peerState : PeerState K T J} {author : K} :
    author ∈ peerState.trackedSenderPubkeys ↔ ∃ record ∈ peerState.sessions,
      ∃ device ∈ sessionSenderKeys record.state, device.toNostr = .ok author := by
  unfold PeerState.trackedSenderPubkeys
  rw [SortedSet.mem_toList, SortedSet.mem_ofList, List.mem_filterMap]
  constructor
  · rintro ⟨device, hdevice, hauthor⟩
    obtain ⟨record, hrecord, hmem⟩ := List.mem_flatMap.mp hdevice
    refine ⟨record, hrecord, device, hmem, ?_⟩
    cases hresult : device.toNostr with
    | error error =>
        rw [hresult] at hauthor
        cases hauthor
    | ok key =>
        rw [hresult] at hauthor
        cases hauthor
        rfl
  · rintro ⟨record, hrecord, device, hmem, hauthor⟩
    refine ⟨device, List.mem_flatMap.mpr ⟨record, hrecord, hmem⟩, ?_⟩
    rw [hauthor]
    rfl

theorem Encrypted.sessionSenderKeys_eq {state nextState : SessionState K} {payload : T}
    {now : UnixSeconds} {event : SignedEvent K T} {eventJson : J}
    (h : Encrypted state nextState payload now event eventJson) :
    sessionSenderKeys nextState = sessionSenderKeys state := by
  cases h with
  | intro hplan hnext hevent hpublish hjson =>
      subst hnext
      obtain ⟨chainKey, encrypted, -, -, -, hstate⟩ := planSend_sending hplan
      rw [hstate]
      rfl

/-- Replacing a session by one under the same keys. -/
private theorem tracked_set {peerState : PeerState K T J} {index : Nat}
    {record next : SessionRecord K T J} (hrecord : peerState.sessions[index]? = some record)
    (hkeys : sessionSenderKeys next.state = sessionSenderKeys record.state) (author : K) :
    author ∈ (⟨peerState.peerPubkey, peerState.sessions.set index next⟩ :
      PeerState K T J).trackedSenderPubkeys ↔ author ∈ peerState.trackedSenderPubkeys := by
  have hlt : index < peerState.sessions.length := (List.getElem?_eq_some_iff.mp hrecord).1
  rw [mem_trackedSenderPubkeys, mem_trackedSenderPubkeys]
  constructor
  · rintro ⟨found, hfound, device, hdevice, hauthor⟩
    rcases List.mem_or_eq_of_mem_set hfound with hold | rfl
    · exact ⟨found, hold, device, hdevice, hauthor⟩
    · exact ⟨record, List.mem_of_getElem? hrecord, device, hkeys ▸ hdevice, hauthor⟩
  · rintro ⟨found, hfound, device, hdevice, hauthor⟩
    obtain ⟨i, hi⟩ := List.mem_iff_getElem?.mp hfound
    by_cases hsame : index = i
    · subst hsame
      rw [hrecord] at hi
      cases hi
      exact ⟨next, List.mem_set hlt next, device, hkeys.symm ▸ hdevice, hauthor⟩
    · refine ⟨found, List.mem_of_getElem? (i := i) ?_, device, hdevice, hauthor⟩
      rw [List.getElem?_set_ne hsame]
      exact hi

/-- Moving a session on under the same keys keeps the authors. -/
theorem PairwiseState.Advanced.authorSet_eq {state advanced : PairwiseState K T J} {peer : K}
    {index : Nat} {record : SessionRecord K T J} {nextState : SessionState K}
    (h : state.Advanced peer index nextState advanced)
    (hplace : state.HasSession peer index record)
    (hkeys : sessionSenderKeys nextState = sessionSenderKeys record.state) :
    advanced.authorSet = state.authorSet := by
  obtain ⟨peerState, found, hget, hfound, rfl⟩ := h
  obtain ⟨peerState', hget', hrecord⟩ := hplace
  rw [hget] at hget'
  cases hget'
  rw [hfound] at hrecord
  cases hrecord
  refine SortedSet.ext_mem fun author => ?_
  rw [PairwiseState.mem_authorSet, PairwiseState.mem_authorSet]
  constructor
  · rintro ⟨other, otherState, hother, hauthor⟩
    rw [SortedMap.get?_insert] at hother
    split at hother
    · rename_i hsame
      subst hsame
      cases hother
      exact ⟨peer, peerState, hget, (tracked_set hfound hkeys author).mp hauthor⟩
    · exact ⟨other, otherState, hother, hauthor⟩
  · rintro ⟨other, otherState, hother, hauthor⟩
    by_cases hsame : peer = other
    · subst hsame
      rw [hget] at hother
      cases hother
      exact ⟨peer, _, SortedMap.get?_insert_self _ _ _, (tracked_set hfound hkeys author).mpr hauthor⟩
    · refine ⟨other, otherState, ?_, hauthor⟩
      rw [SortedMap.get?_insert_ne _ _ hsame]
      exact hother

end

end NostrDoubleRatchet
