import NostrDoubleRatchet.Session.Exchange
import NostrDoubleRatchet.TypeScript.SessionPhases

/-!
Two TypeScript sessions of one handshake and the events between them. Either party sends at any
time, and an event sent so far reaches the peer at any time, any number of times or never. The
headers and rumors of the events and the list of the accepted ones are bookkeeping for the
statements.
-/

namespace NostrDoubleRatchet.TypeScript.DoubleRatchet

open KeySchedule
open Exchange (FreshDraws)

/-- An event, with the header and the inner event it seals. -/
structure SentEvent (K T : Type) where
  author : Party
  header : Header K
  innerEvent : JsonValue
  event : MessageEvent K T

/-- `accepted` holds the places in `sent` of the events the peer has accepted, and `secretKeys`
what `generateSecretKey` will draw. -/
structure Conversation (K T : Type) [LinearOrder K] where
  states : Party → SessionState K
  sent : List (SentEvent K T)
  accepted : List Nat
  secretKeys : Stream' K

inductive ConversationStep (K : Type) where
  | send (party : Party) (event : PartialEvent) (outerTags : List (List String)) (now : Nat)
      (bodyNonce headerNonce : K)
  | receive (index : Nat) (callbacks : JsonValue → Except String Unit)

namespace Conversation

variable {K T : Type} [LinearOrder K] [Primitives K T]

def setState (x : Conversation K T) (party : Party) (state : SessionState K) :
    Conversation K T :=
  { x with states := Function.update x.states party state }

/-- The delivery of an event to the peer of its author. -/
def deliver (codec : RumorCodec T) (x : Conversation K T) (message : SentEvent K T)
    (callbacks : JsonValue → Except String Unit) :
    Except String (Option JsonValue) × SessionState K :=
  receiveEvent codec callbacks (x.states message.author.other) message.event x.secretKeys.head

def step (codec : RumorCodec T) (x : Conversation K T) :
    ConversationStep K → Conversation K T
  | .send party event outerTags now bodyNonce headerNonce =>
      match sendEvent codec (x.states party) event outerTags now bodyNonce headerNonce with
      | (.ok (message, innerEvent), next) =>
          { x.setState party next with
            sent := x.sent ++ [⟨party, (x.states party).nextHeader, innerEvent, message⟩] }
      | (.error _, next) => x.setState party next
  | .receive index callbacks =>
      match x.sent[index]? with
      | none => x
      | some message =>
          match x.deliver codec message callbacks with
          | (.ok (some _), next) =>
              { x.setState message.author.other next with
                accepted := index :: x.accepted
                secretKeys := x.secretKeys.tail }
          | (_, next) =>
              { x.setState message.author.other next with secretKeys := x.secretKeys.tail }

def run (codec : RumorCodec T) (x : Conversation K T) (steps : List (ConversationStep K)) :
    Conversation K T :=
  steps.foldl (step codec) x

/-- Both sessions come from the same invite key and shared secret. -/
def Started (inviteSecret initiatorSecret shared first unused : K) (x : Conversation K T) :
    Prop :=
  init ⟨Primitives.publicKey inviteSecret⟩ initiatorSecret true shared first =
      .ok (x.states .initiator) ∧
    init ⟨Primitives.publicKey initiatorSecret⟩ inviteSecret false shared unused =
      .ok (x.states .responder) ∧
    x.sent = [] ∧ x.accepted = []

/-- The keys the parties start from and those they will draw are pairwise distinct. -/
structure FreshStart (initiatorSecret first : K) (start : Conversation K T) : Prop where
  responder : (start.states .responder).ourNextNostrKey.publicKey ≠
    ⟨Primitives.publicKey initiatorSecret⟩
  draws : FreshDraws (Stream'.cons first start.secretKeys) (fun key =>
    key = ⟨Primitives.publicKey initiatorSecret⟩ ∨
      key = (start.states .responder).ourNextNostrKey.publicKey)

/-! The joint invariant. -/

/-- How many key pairs the schedule has fixed. -/
def drawn (phase : Party → Nat) : Nat := max (phase .initiator) (phase .responder) + 2

/-- `m` was sent on chain `c`. -/
structure SentOn (secrets : Nat → K) (shared : K) (lengths : Nat → Nat) (phase : Party → Nat)
    (codec : RumorCodec T) (c : Nat) (m : SentEvent K T) : Prop where
  chain_le : c + 1 ≤ phase m.author
  parity : (c + 1) % 2 = phase m.author % 2
  number : m.header.number < lengths c
  header : m.header = chainHeader secrets lengths c m.header.number
  built : Built codec m.innerEvent
  event : HonestEvent secrets shared lengths c m.header.number
    (codec.jsonStringify m.innerEvent) m.event

def acceptedAt (x : Conversation K T) (sender : DevicePubkey K) (number : Nat) : Prop :=
  ∃ i ∈ x.accepted, ∃ m, x.sent[i]? = some m ∧ m.event.pubkey = sender ∧ m.header.number = number

structure Consistent (secrets : Nat → K) (shared : K) (lengths : Nat → Nat)
    (phase received : Party → Nat) (codec : RumorCodec T) (x : Conversation K T) : Prop where
  initiator_odd : phase .initiator % 2 = 1
  responder_even : phase .responder % 2 = 0
  adjacent : ∀ party, phase party ≤ phase party.other + 1
  distinct : Distinct secrets (drawn phase)
  fresh : FreshDraws x.secretKeys (fun key => ∃ i < drawn phase, key = pubkey secrets i)
  atPhase : ∀ party,
    AtPhase secrets shared lengths (phase party) (received party) (x.states party)
  sent : ∀ m ∈ x.sent, ∃ c, SentOn secrets shared lengths phase codec c m
  numbers : x.sent.Pairwise (fun a b =>
    a.event.pubkey = b.event.pubkey → a.header.number < b.header.number)
  receivedCount : ∀ party c, c + 2 = phase party → received party ≤ lengths c
  unsent : ∀ party c, phase party ≤ c → (c + 1) % 2 = phase party % 2 → lengths c = 0
  stores : ∀ party, KeyStore secrets shared lengths (phase party) (received party) x.acceptedAt
    (x.states party)
  acceptedSent : ∀ i ∈ x.accepted, i < x.sent.length
  acceptedOnce : x.accepted.Nodup

section

variable {secrets : Nat → K} {shared : K} {lengths : Nat → Nat} {phase received : Party → Nat}
  {codec : RumorCodec T} {x : Conversation K T}

theorem drawn_eq (phase : Party → Nat) (party : Party) :
    drawn phase = max (phase party) (phase party.other) + 2 := by
  cases party with
  | initiator => rfl
  | responder => exact congrArg (· + 2) (max_comm _ _)

theorem lt_drawn (phase : Party → Nat) (party : Party) : phase party + 1 < drawn phase := by
  have hle := le_max_left (phase party) (phase party.other)
  rw [drawn_eq phase party]
  omega

theorem other_other (party : Party) : party.other.other = party := by
  cases party with
  | initiator => rfl
  | responder => rfl

theorem ne_other (party : Party) : party ≠ party.other := by
  cases party with
  | initiator => exact fun heq => by cases heq
  | responder => exact fun heq => by cases heq

theorem eq_other_of_ne {party p : Party} (h : p ≠ party) : p = party.other := by
  obtain rfl | heq := Exchange.eq_or_other party p
  · exact absurd rfl h
  · exact heq

theorem Consistent.parity (h : Consistent secrets shared lengths phase received codec x)
    (party : Party) : phase party.other % 2 = (phase party + 1) % 2 := by
  have hodd := h.initiator_odd
  have heven := h.responder_even
  cases party with
  | initiator =>
      change phase .responder % 2 = _
      omega
  | responder =>
      change phase .initiator % 2 = _
      omega

/-- The author of an event is one step ahead of the receiver at most. -/
theorem Consistent.chain_le (h : Consistent secrets shared lengths phase received codec x)
    {m : SentEvent K T} {c : Nat} (hm : SentOn secrets shared lengths phase codec c m) :
    c ≤ phase m.author.other ∧ c % 2 = phase m.author.other % 2 := by
  have hadjacent := h.adjacent m.author
  have hother := h.parity m.author
  have hle := hm.chain_le
  have hparity := hm.parity
  omega

omit [LinearOrder K] in
theorem freshDraws_tail {secretKeys : Stream' K} {used : DevicePubkey K → Prop}
    (h : FreshDraws secretKeys used) : FreshDraws secretKeys.tail used where
  valid i := h.valid (i + 1)
  inj i j heq := Nat.succ.inj (h.inj (i + 1) (j + 1) heq)
  unused i := h.unused (i + 1)

/-- A key that was drawn and thrown away. -/
theorem Consistent.discard (h : Consistent secrets shared lengths phase received codec x) :
    Consistent secrets shared lengths phase received codec
      { x with secretKeys := x.secretKeys.tail } :=
  { h with fresh := freshDraws_tail h.fresh }

omit [Primitives K T] in
theorem setState_self (x : Conversation K T) (party : Party) :
    x.setState party (x.states party) = x := by
  unfold setState
  rw [Function.update_eq_self]

/-! Sending. -/

theorem update_length_of_ne {c d : Nat} (hne : d ≠ c) :
    lengths d = Function.update lengths c (lengths c + 1) d :=
  (Function.update_of_ne hne _ _).symm

/-- The sending chain of a party moves on. -/
theorem Consistent.advance (h : Consistent secrets shared lengths phase received codec x)
    {party : Party} {c : Nat} (hc : c + 1 = phase party) {next : SessionState K}
    (hskipped : next.skippedKeys = (x.states party).skippedKeys)
    (hnext : AtPhase secrets shared (Function.update lengths c (lengths c + 1)) (phase party)
      (received party) next) :
    Consistent secrets shared (Function.update lengths c (lengths c + 1)) phase received codec
      (x.setState party next) := by
  have hmono : ∀ d, lengths d ≤ Function.update lengths c (lengths c + 1) d := by
    intro d
    by_cases hd : d = c
    · rw [hd, Function.update_self]
      exact Nat.le_succ _
    · exact (update_length_of_ne hd).le
  have hparity := h.parity party
  have hadjacent := h.adjacent party.other
  rw [other_other] at hadjacent
  refine { h with
    atPhase := ?_
    sent := ?_
    receivedCount := fun p d hd => (h.receivedCount p d hd).trans (hmono d)
    unsent := ?_
    stores := ?_ }
  · intro p
    by_cases hp : p = party
    · subst hp
      change AtPhase _ _ _ _ _ (Function.update x.states p next p)
      rw [Function.update_self]
      exact hnext
    · obtain rfl := eq_other_of_ne hp
      change AtPhase _ _ _ _ _ (Function.update x.states party next party.other)
      rw [Function.update_of_ne hp]
      refine (h.atPhase party.other).of_lengths ?_
      intro d hd
      exact update_length_of_ne (by omega)
  · intro m hm
    obtain ⟨d, hd⟩ := h.sent m hm
    have hle := hd.chain_le
    have hdParity := hd.parity
    have hbefore : ∀ e, e + 2 = d → lengths e = Function.update lengths c (lengths c + 1) e := by
      intro e he
      refine update_length_of_ne ?_
      rintro rfl
      by_cases hp : m.author = party
      · rw [hp] at hle
        omega
      · rw [eq_other_of_ne hp] at hle hdParity
        omega
    exact ⟨d, {
      chain_le := hle
      parity := hdParity
      number := hd.number.trans_le (hmono d)
      header := hd.header.trans (chainHeader_of_lengths hbefore)
      built := hd.built
      event := hd.event.of_lengths hbefore }⟩
  · intro p d hd hdParity
    rw [← h.unsent p d hd hdParity]
    refine (update_length_of_ne ?_).symm
    rintro rfl
    by_cases hp : p = party
    · rw [hp] at hd
      omega
    · rw [eq_other_of_ne hp] at hd hdParity
      omega
  · intro p
    by_cases hp : p = party
    · subst hp
      change KeyStore _ _ _ _ _ x.acceptedAt (Function.update x.states p next p)
      rw [Function.update_self]
      refine ((h.stores p).of_lengths ?_).of_skippedKeys hskipped
      intro d hd hdParity
      exact update_length_of_ne (by omega)
    · obtain rfl := eq_other_of_ne hp
      change KeyStore _ _ _ _ _ x.acceptedAt (Function.update x.states party next party.other)
      rw [Function.update_of_ne hp]
      refine (h.stores party.other).of_lengths ?_
      intro d hd hdParity
      exact update_length_of_ne (by omega)

omit [Primitives K T] in
theorem acceptedAt_append (hsent : ∀ i ∈ x.accepted, i < x.sent.length) (m : SentEvent K T)
    (sender : DevicePubkey K) (number : Nat) :
    acceptedAt { x with sent := x.sent ++ [m] } sender number ↔ x.acceptedAt sender number := by
  refine exists_congr fun i => and_congr_right fun hi => exists_congr fun other => ?_
  have hsame : (x.sent ++ [m])[i]? = x.sent[i]? := List.getElem?_append_left (hsent i hi)
  change (x.sent ++ [m])[i]? = _ ∧ _ ↔ _
  rw [hsame]

/-- The event of the position just taken. -/
theorem Consistent.record (h : Consistent secrets shared lengths phase received codec x)
    {m : SentEvent K T} {c : Nat} (hm : SentOn secrets shared lengths phase codec c m)
    (hlast : ∀ other ∈ x.sent, other.event.pubkey = m.event.pubkey →
      other.header.number < m.header.number) :
    Consistent secrets shared lengths phase received codec
      { x with sent := x.sent ++ [m] } := by
  refine { h with sent := ?_, numbers := ?_, stores := ?_, acceptedSent := ?_ }
  · intro other hother
    obtain hother | hother := List.mem_append.mp hother
    · exact h.sent other hother
    · obtain rfl := List.mem_singleton.mp hother
      exact ⟨c, hm⟩
  · refine List.pairwise_append.mpr ⟨h.numbers, List.pairwise_singleton _ _, ?_⟩
    intro other hother last hlastMem
    obtain rfl := List.mem_singleton.mp hlastMem
    exact hlast other hother
  · intro party
    exact (h.stores party).of_accepted
      (fun d number _ _ => (acceptedAt_append h.acceptedSent m _ number).symm)
  · intro i hi
    change i < (x.sent ++ [m]).length
    rw [List.length_append]
    exact Nat.lt_add_right _ (h.acceptedSent i hi)

theorem Consistent.send (hlaws : SymbolicLaws K)
    (h : Consistent secrets shared lengths phase received codec x)
    (party : Party) (event : PartialEvent) (outerTags : List (List String)) (now : Nat)
    (bodyNonce headerNonce : K) :
    ∃ lengths', Consistent secrets shared lengths' phase received codec
      (x.step codec (.send party event outerTags now bodyNonce headerNonce)) := by
  have hdrawn := lt_drawn phase party
  unfold step
  dsimp only
  split
  · rename_i message innerEvent next hsend
    obtain ⟨-, hno⟩ | ⟨c, hc, hskipped, hnext, hevent⟩ := sendEvent_honest hlaws h.distinct
      (h.atPhase party) hdrawn codec event outerTags now bodyNonce headerNonce hsend
    · exact absurd rfl (hno _)
    · have hheader := (h.atPhase party).nextHeader hc
      have hbefore : ∀ d, d + 2 = c → lengths d = Function.update lengths c (lengths c + 1) d :=
        fun d hd => update_length_of_ne (by omega)
      obtain ⟨hbuilt, hevent'⟩ := hevent _ rfl
      refine ⟨_, (h.advance hc hskipped hnext).record (c := c) {
        chain_le := hc.le
        parity := by rw [hc]
        number := ?_
        header := ?_
        built := hbuilt
        event := ?_ } ?_⟩
      · dsimp only
        rw [hheader, Function.update_self]
        exact Nat.lt_succ_self _
      · dsimp only
        rw [hheader]
        exact chainHeader_of_lengths hbefore
      · dsimp only
        rw [hheader]
        exact hevent'.of_lengths hbefore
      · intro other hother hpubkey
        obtain ⟨d, hd⟩ := h.sent other hother
        have hle := hd.chain_le
        have hotherDrawn := lt_drawn phase other.author
        have hsame : d = c := h.distinct.inj d c (by omega) (by omega)
          (hd.event.sender.symm.trans (hpubkey.trans hevent'.sender))
        dsimp only
        rw [hheader, ← hsame]
        exact hd.number
  · rename_i message next hsend
    obtain ⟨rfl, -⟩ | ⟨c, hc, hskipped, hnext, -⟩ := sendEvent_honest hlaws h.distinct
      (h.atPhase party) hdrawn codec event outerTags now bodyNonce headerNonce hsend
    · rw [setState_self]
      exact ⟨lengths, h⟩
    · exact ⟨_, h.advance hc hskipped hnext⟩

/-! Receiving. -/

/-- An event is known by its author's key and its number. -/
theorem Consistent.index_unique (h : Consistent secrets shared lengths phase received codec x)
    {i j : Nat} {a b : SentEvent K T} (ha : x.sent[i]? = some a) (hb : x.sent[j]? = some b)
    (hpubkey : a.event.pubkey = b.event.pubkey) (hnumber : a.header.number = b.header.number) :
    i = j := by
  obtain ⟨hi, rfl⟩ := List.getElem?_eq_some_iff.mp ha
  obtain ⟨hj, rfl⟩ := List.getElem?_eq_some_iff.mp hb
  have hordered := List.pairwise_iff_getElem.mp h.numbers
  obtain hlt | heq | hgt := Nat.lt_trichotomy i j
  · exact absurd (hordered i j hi hj hlt hpubkey) (by omega)
  · exact heq
  · exact absurd (hordered j i hj hi hgt hpubkey.symm) (by omega)

theorem Consistent.acceptedAt_iff (h : Consistent secrets shared lengths phase received codec x)
    {index : Nat} {m : SentEvent K T} (hm : x.sent[index]? = some m) :
    x.acceptedAt m.event.pubkey m.header.number ↔ index ∈ x.accepted := by
  constructor
  · rintro ⟨i, hi, other, hother, hpubkey, hnumber⟩
    obtain rfl := h.index_unique hother hm hpubkey hnumber
    exact hi
  · intro hmem
    exact ⟨index, hmem, m, hm, rfl, rfl⟩

omit [Primitives K T] in
theorem acceptedAt_cons {index : Nat} {m : SentEvent K T} (hm : x.sent[index]? = some m)
    (sender : DevicePubkey K) (number : Nat) :
    acceptedAt { x with accepted := index :: x.accepted } sender number ↔
      x.acceptedAt sender number ∨ (sender = m.event.pubkey ∧ number = m.header.number) := by
  constructor
  · rintro ⟨i, hi, other, hother, hpubkey, hnumber⟩
    obtain rfl | hi := List.mem_cons.mp hi
    · change x.sent[i]? = _ at hother
      rw [hm] at hother
      cases hother
      exact .inr ⟨hpubkey.symm, hnumber.symm⟩
    · exact .inl ⟨i, hi, other, hother, hpubkey, hnumber⟩
  · rintro (⟨i, hi, hrest⟩ | ⟨rfl, rfl⟩)
    · exact ⟨i, List.mem_cons_of_mem _ hi, hrest⟩
    · exact ⟨index, List.mem_cons_self, m, hm, rfl, rfl⟩

/-- A message of the receiving chain or of one left behind is accepted. -/
theorem Consistent.accept (h : Consistent secrets shared lengths phase received codec x)
    {index : Nat} {m : SentEvent K T} (hm : x.sent[index]? = some m)
    (hunaccepted : index ∉ x.accepted) {c : Nat}
    (hsent : SentOn secrets shared lengths phase codec c m) (hc : c + 2 ≤ phase m.author.other)
    {next : SessionState K} {received' : Nat}
    (hnext : Reception secrets shared lengths (phase m.author.other) (received m.author.other) c
      m.header.number (x.states m.author.other) next received') :
    Consistent secrets shared lengths phase (Function.update received m.author.other received')
      codec { x.setState m.author.other next with accepted := index :: x.accepted } := by
  have hdrawn := lt_drawn phase m.author.other
  obtain ⟨-, hchainParity⟩ := h.chain_le hsent
  refine { h with
    atPhase := ?_
    receivedCount := ?_
    stores := ?_
    acceptedSent := ?_
    acceptedOnce := List.nodup_cons.mpr ⟨hunaccepted, h.acceptedOnce⟩ }
  · intro p
    by_cases hp : p = m.author.other
    · rw [hp]
      change AtPhase _ _ _ _ _ (Function.update x.states m.author.other next m.author.other)
      rw [Function.update_self, Function.update_self]
      exact hnext.atPhase
    · change AtPhase _ _ _ _ _ (Function.update x.states m.author.other next p)
      rw [Function.update_of_ne hp, Function.update_of_ne hp]
      exact h.atPhase p
  · intro p d hd
    by_cases hp : p = m.author.other
    · rw [hp, Function.update_self]
      rw [hp] at hd
      obtain ⟨heq, -⟩ | ⟨hcq, -, heq⟩ := hnext.reached
      · rw [heq]
        exact h.receivedCount _ d hd
      · have hdc : d = c := by omega
        rw [heq, hdc]
        exact hsent.number
    · rw [Function.update_of_ne hp]
      exact h.receivedCount p d hd
  · intro p
    by_cases hp : p = m.author.other
    · rw [hp]
      change KeyStore _ _ _ _ _ (acceptedAt { x with accepted := index :: x.accepted })
        (Function.update x.states m.author.other next m.author.other)
      rw [Function.update_self, Function.update_self]
      refine ((h.stores m.author.other).reception h.distinct (by omega) hc hchainParity
        hsent.number hnext).of_accepted ?_
      intro d number _ _
      rw [acceptedAt_cons hm, hsent.event.sender]
    · change KeyStore _ _ _ _ _ (acceptedAt { x with accepted := index :: x.accepted })
        (Function.update x.states m.author.other next p)
      rw [Function.update_of_ne hp, Function.update_of_ne hp]
      refine (h.stores p).of_accepted ?_
      intro d number hle hparity
      have hpDrawn := lt_drawn phase p
      rw [acceptedAt_cons hm, hsent.event.sender]
      refine (or_iff_left ?_).symm
      rintro ⟨hsame, -⟩
      have hdc := h.distinct.inj d c (by omega) (by omega) hsame
      have hother := h.parity p
      rw [eq_other_of_ne hp] at hparity
      rw [eq_other_of_ne hp, other_other] at hother
      omega
  · intro i hi
    obtain rfl | hi := List.mem_cons.mp hi
    · exact (List.getElem?_eq_some_iff.mp hm).1
    · exact h.acceptedSent i hi

/-- A message of the peer's next chain is accepted: the receiver moves on by one step. -/
theorem Consistent.acceptNext (h : Consistent secrets shared lengths phase received codec x)
    {index : Nat} {m : SentEvent K T} (hm : x.sent[index]? = some m)
    (hunaccepted : index ∉ x.accepted)
    (hsent : SentOn secrets shared lengths phase codec (phase m.author.other) m)
    {ready next : SessionState K} {received' : Nat}
    (hready : Departure secrets shared lengths (phase m.author.other) (received m.author.other)
      (x.states m.author.other) ready)
    (hnext : Reception (draw secrets (phase m.author.other + 3) x.secretKeys.head) shared lengths
      (phase m.author.other + 2) 0 (phase m.author.other) m.header.number ready next received') :
    Consistent (draw secrets (phase m.author.other + 3) x.secretKeys.head) shared lengths
      (Function.update phase m.author.other (phase m.author.other + 2))
      (Function.update received m.author.other received') codec
      { x.setState m.author.other next with
        accepted := index :: x.accepted
        secretKeys := x.secretKeys.tail } := by
  generalize hparty : m.author.other = party at *
  have hauthor : m.author = party.other := by
    rw [← hparty, other_other]
  have hc := hsent.chain_le
  rw [hauthor] at hc
  have hahead : phase party.other = phase party + 1 := by
    have hadjacent := h.adjacent party.other
    rw [other_other] at hadjacent
    omega
  have hdrawn : drawn phase = phase party + 3 := by
    rw [drawn_eq phase party]
    omega
  have hdrawn' : drawn (Function.update phase party (phase party + 2)) = phase party + 4 := by
    rw [drawn_eq _ party, Function.update_self, Function.update_of_ne (ne_other party).symm]
    omega
  have hagree : ∀ i < phase party + 3,
      secrets i = draw secrets (phase party + 3) x.secretKeys.head i :=
    fun i hi => draw_of_lt secrets x.secretKeys.head hi
  have hdistinct := h.distinct
  have hfresh := h.fresh
  rw [hdrawn] at hdistinct hfresh
  obtain ⟨hdistinct', hfresh'⟩ := Exchange.distinct_draw hdistinct hfresh
  have hphase : ∀ p, phase p ≤ Function.update phase party (phase party + 2) p := by
    intro p
    by_cases hp : p = party
    · rw [hp, Function.update_self]
      omega
    · rw [Function.update_of_ne hp]
  have hphaseParity : ∀ p, Function.update phase party (phase party + 2) p % 2 = phase p % 2 := by
    intro p
    by_cases hp : p = party
    · rw [hp, Function.update_self]
      omega
    · rw [Function.update_of_ne hp]
  have hsender : m.event.pubkey =
      pubkey (draw secrets (phase party + 3) x.secretKeys.head) (phase party) :=
    hsent.event.sender.trans (pubkey_congr hagree (by omega))
  refine {
    initiator_odd := (hphaseParity _).trans h.initiator_odd
    responder_even := (hphaseParity _).trans h.responder_even
    adjacent := ?_
    distinct := hdrawn' ▸ hdistinct'
    fresh := hdrawn' ▸ hfresh'
    atPhase := ?_
    sent := ?_
    numbers := h.numbers
    receivedCount := ?_
    unsent := ?_
    stores := ?_
    acceptedSent := ?_
    acceptedOnce := List.nodup_cons.mpr ⟨hunaccepted, h.acceptedOnce⟩ }
  · intro p
    by_cases hp : p = party
    · rw [hp, Function.update_self, Function.update_of_ne (ne_other party).symm]
      omega
    · rw [Function.update_of_ne hp]
      exact (h.adjacent p).trans (Nat.succ_le_succ (hphase _))
  · intro p
    by_cases hp : p = party
    · rw [hp]
      change AtPhase _ _ _ _ _ (Function.update x.states party next party)
      rw [Function.update_self, Function.update_self, Function.update_self]
      exact hnext.atPhase
    · change AtPhase _ _ _ _ _ (Function.update x.states party next p)
      rw [Function.update_of_ne hp, Function.update_of_ne hp, Function.update_of_ne hp]
      refine (h.atPhase p).congr hagree ?_
      rw [eq_other_of_ne hp]
      omega
  · intro other hother
    obtain ⟨d, hd⟩ := h.sent other hother
    have hle := hd.chain_le
    have hlt := lt_drawn phase other.author
    exact ⟨d, {
      chain_le := hle.trans (hphase _)
      parity := by rw [hphaseParity, hd.parity]
      number := hd.number
      header := hd.header.trans (chainHeader_congr hagree (by omega))
      built := hd.built
      event := hd.event.congr hagree (by omega) }⟩
  · intro p d hd
    by_cases hp : p = party
    · rw [hp, Function.update_self] at hd ⊢
      have hdParty : d = phase party := by omega
      rw [hdParty]
      obtain ⟨heq, -⟩ | ⟨-, -, heq⟩ := hnext.reached
      · rw [heq]
        exact Nat.zero_le _
      · rw [heq]
        exact hsent.number
    · rw [Function.update_of_ne hp] at hd ⊢
      exact h.receivedCount p d hd
  · intro p d hd hdParity
    rw [hphaseParity] at hdParity
    exact h.unsent p d ((hphase p).trans hd) hdParity
  · intro p
    by_cases hp : p = party
    · rw [hp]
      change KeyStore _ _ _ _ _ (acceptedAt { x with accepted := index :: x.accepted })
        (Function.update x.states party next party)
      rw [Function.update_self, Function.update_self, Function.update_self]
      have hunsent : ∀ number, ¬ x.acceptedAt (pubkey secrets (phase party + 2)) number := by
        rintro number ⟨i, hi, other, hother, hpubkey, -⟩
        obtain ⟨d, hd⟩ := h.sent other (List.mem_of_getElem? hother)
        have hle := hd.chain_le
        have hlt := lt_drawn phase other.author
        have hsame := hdistinct.inj d (phase party + 2) (by omega) (by omega)
          (hd.event.sender.symm.trans hpubkey)
        omega
      have hdeparted := (h.stores party).departure hdistinct (by omega)
        (fun d hd => h.receivedCount party d hd) hunsent hready
      refine ((hdeparted.congr hagree (by omega)).reception hdistinct' (by omega) le_rfl
        (by omega) hsent.number hnext).of_accepted ?_
      intro d number _ _
      rw [acceptedAt_cons hm, hsender]
    · change KeyStore _ _ _ _ _ (acceptedAt { x with accepted := index :: x.accepted })
        (Function.update x.states party next p)
      rw [Function.update_of_ne hp, Function.update_of_ne hp, Function.update_of_ne hp]
      obtain rfl := eq_other_of_ne hp
      refine ((h.stores party.other).congr hagree (by omega)).of_accepted ?_
      intro d number hle hparity
      rw [acceptedAt_cons hm, hsender]
      refine (or_iff_left ?_).symm
      rintro ⟨hsame, -⟩
      have hdc := hdistinct'.inj d (phase party) (by omega) (by omega) hsame
      omega
  · intro i hi
    obtain rfl | hi := List.mem_cons.mp hi
    · exact (List.getElem?_eq_some_iff.mp hm).1
    · exact h.acceptedSent i hi

/-- The key a ratchet step of the receiver draws is a new one. -/
theorem Consistent.drawn_distinct (h : Consistent secrets shared lengths phase received codec x)
    {m : SentEvent K T} (hsent : SentOn secrets shared lengths phase codec
      (phase m.author.other) m) :
    Distinct (draw secrets (phase m.author.other + 3) x.secretKeys.head)
      (phase m.author.other + 4) := by
  have hahead := hsent.chain_le
  have hadjacent := h.adjacent m.author
  have hdrawn : drawn phase = phase m.author.other + 3 := by
    rw [drawn_eq phase m.author.other, other_other]
    omega
  have hdistinct := h.distinct
  have hfresh := h.fresh
  rw [hdrawn] at hdistinct hfresh
  exact (Exchange.distinct_draw hdistinct hfresh).1

/-- What a delivery does. -/
theorem Consistent.deliver_cases (hlaws : SymbolicLaws K)
    (h : Consistent secrets shared lengths phase received codec x) {index : Nat}
    {m : SentEvent K T} (hm : x.sent[index]? = some m)
    (callbacks : JsonValue → Except String Unit) {result : Except String (Option JsonValue)}
    {next : SessionState K} (hdeliver : x.deliver codec m callbacks = (result, next)) :
    (next = x.states m.author.other ∧ ∀ innerEvent, result ≠ .ok (some innerEvent)) ∨
    index ∉ x.accepted ∧
      (∃ innerEvent, result = .ok (some innerEvent) ∧
        parseInnerRumor codec (codec.jsonStringify m.innerEvent) = .ok innerEvent) ∧
      ∃ secrets' phase' received', Consistent secrets' shared lengths phase' received' codec
        { x.setState m.author.other next with
          accepted := index :: x.accepted
          secretKeys := x.secretKeys.tail } := by
  obtain ⟨c, hsent⟩ := h.sent m (List.mem_of_getElem? hm)
  obtain ⟨hle, hparity⟩ := h.chain_le hsent
  have hdrawn := lt_drawn phase m.author.other
  have hunsent := h.unsent m.author.other _ (Nat.le_succ _) (by omega)
  have hdraw : c = phase m.author.other →
      Distinct (draw secrets (phase m.author.other + 3) x.secretKeys.head)
        (phase m.author.other + 4) := by
    rintro rfl
    exact h.drawn_distinct hsent
  obtain hunchanged | ⟨hread, hcases⟩ := receiveEvent_honest hlaws h.distinct
    (h.atPhase m.author.other) hdrawn hle hparity hsent.event hunsent hdraw codec callbacks hdeliver
  · exact .inl hunchanged
  · have hunaccepted : index ∉ x.accepted := by
      intro hmem
      have haccepted := (h.acceptedAt_iff hm).mpr hmem
      rw [hsent.event.sender] at haccepted
      obtain ⟨innerEvent, hresult, -⟩ := hread
      exact receiveEvent_accepted hlaws h.distinct (h.atPhase m.author.other)
        (h.stores m.author.other) hdrawn hle hparity hsent.event haccepted hunsent hdraw codec
        callbacks hdeliver innerEvent hresult
    refine .inr ⟨hunaccepted, hread, ?_⟩
    obtain ⟨hc, received', hnext⟩ | ⟨rfl, ready, received', hready, hnext⟩ := hcases
    · exact ⟨_, _, _, (h.accept hm hunaccepted hsent hc hnext).discard⟩
    · exact ⟨_, _, _, h.acceptNext hm hunaccepted hsent hready hnext⟩

theorem Consistent.receive (hlaws : SymbolicLaws K)
    (h : Consistent secrets shared lengths phase received codec x) (index : Nat)
    (callbacks : JsonValue → Except String Unit) :
    ∃ secrets' phase' received', Consistent secrets' shared lengths phase' received' codec
      (x.step codec (.receive index callbacks)) := by
  unfold step
  dsimp only
  split
  · exact ⟨_, _, _, h⟩
  · rename_i m hm
    generalize hdeliver : x.deliver codec m callbacks = outcome
    obtain ⟨result, next⟩ := outcome
    obtain ⟨rfl, hno⟩ | ⟨-, ⟨innerEvent, rfl, -⟩, hnext⟩ :=
      h.deliver_cases hlaws hm callbacks hdeliver
    · split
      · rename_i accepted _ heq
        cases heq
        exact absurd rfl (hno accepted)
      · rename_i heq
        cases heq
        rw [setState_self]
        exact ⟨_, _, _, h.discard⟩
    · exact hnext

/-- Every run keeps the invariant. -/
theorem Consistent.run (hlaws : SymbolicLaws K)
    (h : Consistent secrets shared lengths phase received codec x)
    (steps : List (ConversationStep K)) :
    ∃ secrets' lengths' phase' received',
      Consistent secrets' shared lengths' phase' received' codec (x.run codec steps) := by
  induction steps generalizing secrets lengths phase received x with
  | nil => exact ⟨_, _, _, _, h⟩
  | cons step rest ih =>
      cases step with
      | send party event outerTags now bodyNonce headerNonce =>
          obtain ⟨lengths', h'⟩ :=
            h.send hlaws party event outerTags now bodyNonce headerNonce
          exact ih h'
      | receive index callbacks =>
          obtain ⟨secrets', phase', received', h'⟩ := h.receive hlaws index callbacks
          exact ih h'

/-! The start. -/

omit [LinearOrder K] in
theorem getPublicKey_eq_ok (hlaws : SymbolicLaws K) {secret : K} {key : DevicePubkey K}
    (h : getPublicKey secret = .ok key) :
    ValidSecret secret ∧ key = ⟨Primitives.publicKey secret⟩ := by
  unfold getPublicKey at h
  rw [except_bind_eq_ok] at h
  obtain ⟨read, hread, h⟩ := h
  cases h
  obtain rfl := hlaws.secretKey_eq hread
  exact ⟨hread, rfl⟩

omit [LinearOrder K] in
/-- Both sides derive the same responder key. -/
theorem responder_agree (hlaws : SymbolicLaws K) {inviteSecret initiatorSecret secret : K}
    {blinded : DevicePubkey K}
    (hpublic : privateResponderPublicKey initiatorSecret ⟨Primitives.publicKey inviteSecret⟩ =
      .ok blinded)
    (hsecret : privateResponderSecretKey inviteSecret ⟨Primitives.publicKey initiatorSecret⟩ =
      .ok secret) :
    ValidSecret initiatorSecret ∧ blinded = ⟨Primitives.publicKey secret⟩ := by
  unfold privateResponderPublicKey at hpublic
  rw [except_bind_eq_ok] at hpublic
  obtain ⟨initiatorPublic, hinitiatorPublic, hpublic⟩ := hpublic
  obtain ⟨hinitiator, rfl⟩ := getPublicKey_eq_ok hlaws hinitiatorPublic
  unfold privateResponderSecretKey at hsecret
  rw [except_bind_eq_ok] at hsecret
  obtain ⟨invitePublic, hinvitePublic, hsecret⟩ := hsecret
  obtain ⟨hinvite, rfl⟩ := getPublicKey_eq_ok hlaws hinvitePublic
  refine ⟨hinitiator, ?_⟩
  obtain ⟨key, hab, hba⟩ := hlaws.agree hinvite hinitiator
  have htweaks : ∀ a b : DevicePubkey K,
      responderTweak initiatorSecret ⟨Primitives.publicKey inviteSecret⟩ a b =
        responderTweak inviteSecret ⟨Primitives.publicKey initiatorSecret⟩ a b := by
    intro a b
    unfold responderTweak getConversationKey
    rw [hab, hba]
  rw [htweaks, except_bind_eq_ok] at hpublic
  obtain ⟨tweak, htweak, hpublic⟩ := hpublic
  rw [htweak] at hsecret
  rw [hlaws.publicKey_valid hinvite] at hpublic
  dsimp only [bind, Except.bind] at hsecret hpublic
  cases htweaked : Primitives.secretAddTweak
      (if Primitives.hasOddY inviteSecret then Primitives.negateSecret inviteSecret
        else inviteSecret) tweak with
  | none =>
      rw [htweaked] at hsecret
      cases hsecret
  | some tweaked =>
      rw [htweaked] at hsecret
      cases hsecret
      rw [hlaws.tweak_publicKey hinvite htweaked] at hpublic
      exact (Except.ok.inj hpublic).symm

def startPhase : Party → Nat
  | .initiator => 1
  | .responder => 0

theorem Started.consistent (hlaws : SymbolicLaws K)
    {inviteSecret initiatorSecret shared first unused : K} {start : Conversation K T}
    (hstart : Started inviteSecret initiatorSecret shared first unused start)
    (hfresh : FreshStart initiatorSecret first start) (codec : RumorCodec T) :
    ∃ secrets, Consistent secrets shared (fun _ => 0) startPhase (fun _ => 0) codec start := by
  obtain ⟨hinitiator, hresponder, hsent, haccepted⟩ := hstart
  unfold init at hinitiator hresponder
  rw [if_pos rfl, except_bind_eq_ok] at hinitiator
  obtain ⟨blinded, hblinded, hinitiator⟩ := hinitiator
  rw [if_neg Bool.false_ne_true, except_bind_eq_ok] at hresponder
  obtain ⟨responderSecret, hsecret, hresponder⟩ := hresponder
  obtain ⟨hinitiatorValid, rfl⟩ := responder_agree hlaws hblinded hsecret
  rw [except_bind_eq_ok] at hresponder
  obtain ⟨responderPublic, hresponderPublic, hresponder⟩ := hresponder
  obtain ⟨hresponderValid, rfl⟩ := getPublicKey_eq_ok hlaws hresponderPublic
  have hresponderState := Except.ok.inj hresponder
  rw [except_bind_eq_ok] at hinitiator
  obtain ⟨key, hkey, hinitiator⟩ := hinitiator
  rw [getPublicKey_valid hinitiatorValid] at hinitiator
  change (getPublicKey first >>= _) = _ at hinitiator
  rw [except_bind_eq_ok] at hinitiator
  obtain ⟨firstPublic, hfirstPublic, hinitiator⟩ := hinitiator
  obtain ⟨hfirst, rfl⟩ := getPublicKey_eq_ok hlaws hfirstPublic
  have hinitiatorState := Except.ok.inj hinitiator
  have hagreed := conversationKey_agreed hlaws hfirst hresponderValid
  obtain rfl : _ = key := Except.ok.inj (hagreed.symm.trans hkey)
  have hne := hfresh.responder
  have hdraws := hfresh.draws
  rw [← hresponderState] at hne hdraws
  have hdistinct := Exchange.distinct_startSecrets hinitiatorValid hresponderValid hne hdraws
  refine ⟨Exchange.startSecrets initiatorSecret responderSecret first, {
    initiator_odd := rfl
    responder_even := rfl
    adjacent := ?_
    distinct := hdistinct
    fresh := ?_
    atPhase := ?_
    sent := ?_
    numbers := ?_
    receivedCount := fun _ _ _ => le_rfl
    unsent := fun _ _ _ _ => rfl
    stores := ?_
    acceptedSent := ?_
    acceptedOnce := ?_ }⟩
  · intro party
    cases party with
    | initiator => exact le_rfl
    | responder => exact Nat.zero_le _
  · refine ⟨fun i => hdraws.valid (i + 1),
      fun i j heq => Nat.succ.inj (hdraws.inj (i + 1) (j + 1) heq), ?_⟩
    rintro i ⟨j, hj, heq⟩
    change j < 3 at hj
    match j with
    | 0 => exact hdraws.unused (i + 1) (Or.inl heq)
    | 1 => exact hdraws.unused (i + 1) (Or.inr heq)
    | 2 => exact absurd (hdraws.inj (i + 1) 0 (DevicePubkey.mk.inj heq)) (Nat.succ_ne_zero i)
  · intro party
    cases party with
    | initiator =>
        rw [← hinitiatorState]
        exact ⟨rfl, rfl, rfl, rfl, rfl, rfl, rfl, rfl, rfl, rfl, rfl⟩
    | responder =>
        rw [← hresponderState]
        exact ⟨rfl, rfl, rfl, rfl, rfl, rfl, rfl, rfl, rfl, rfl, rfl⟩
  · intro m hm
    rw [hsent] at hm
    cases hm
  · rw [hsent]
    exact List.Pairwise.nil
  · intro party
    have hnone : ∀ sender number, (start.states party).skippedKey sender number = none := by
      cases party with
      | initiator =>
          rw [← hinitiatorState]
          exact fun _ _ => rfl
      | responder =>
          rw [← hresponderState]
          exact fun _ _ => rfl
    have hnoEntry : ∀ sender, (start.states party).skippedKeys.get? sender = none := by
      cases party with
      | initiator =>
          rw [← hinitiatorState]
          exact fun _ => rfl
      | responder =>
          rw [← hresponderState]
          exact fun _ => rfl
    exact {
      kept := by
        rintro c number - (⟨-, hlt⟩ | ⟨-, hlt⟩) -
        · cases hlt
        · cases hlt
      only := by
        intro sender number hsome
        rw [hnone] at hsome
        cases hsome
      passed := by
        rintro c number - - ⟨i, hi, -⟩
        rw [haccepted] at hi
        cases hi
      entries := by
        intro sender entry hentry
        rw [hnoEntry] at hentry
        cases hentry }
  · intro i hi
    rw [haccepted] at hi
    cases hi
  · rw [haccepted]
    exact List.nodup_nil

end

/-! A start from symbolic keys, and a greeting that both sides can send. -/

namespace SymbolicStart

def helloId : String := "00112233445566778899aabbccddeeff00112233445566778899aabbccddeeff"

def hello (time : Nat) : PartialEvent where
  kind := some 14
  createdAt := some time
  tags := none
  content := some "hello"
  pubkey := none
  hasSig := false

def rumor (time : Nat) : JsonValue :=
  .object (innerFields (hello time) 14 7000 ++ [("id", .string helloId)])

/-- The first five fields are those of the greeting. -/
def isHello (time : Nat) : JsonValue → Bool
  | .object fields =>
      match fields.take 5 with
      | [(a, .string content), (b, .number kind), (c, .number createdAt), (d, .array []),
          (e, .string pubkey)] =>
          [a, content, b, c, d, e, pubkey] = ["content", "hello", "kind", "created_at", "tags",
            "pubkey", DUMMY_INNER_PUBKEY] && kind = some 14 && createdAt = some (time : Int)
      | _ => false
  | _ => false

/-- The texts of a conversation of greetings. -/
def codec (time : Nat) : RumorCodec TextTerm where
  jsonStringify _ := .bytes "hello"
  jsonParse text := if text = .bytes "hello" then .ok (rumor time) else .error "SyntaxError"
  validateEvent _ := true
  getEventHash value :=
    if isHello time value then .ok helloId
    else .error "can't serialize event with wrong or missing properties"
  describe _ := "hello"

def secretKeys : Stream' KeyTerm := fun i => .secret (i + 3)

def initiator : SessionState KeyTerm :=
  (init ⟨.point (.secret 1)⟩ (.secret 0) true (.digest "shared") (.secret 2)).toOption.get rfl

def responder : SessionState KeyTerm :=
  (init ⟨.point (.secret 0)⟩ (.secret 1) false (.digest "shared") (.secret 2)).toOption.get rfl

def start : Conversation KeyTerm TextTerm where
  states
    | .initiator => initiator
    | .responder => responder
  sent := []
  accepted := []
  secretKeys := secretKeys

theorem started :
    Started (.secret 1) (.secret 0) (.digest "shared") (.secret 2) (.secret 2) start :=
  ⟨rfl, rfl, rfl, rfl⟩

theorem freshStart : FreshStart (.secret 0) (.secret 2) start where
  responder := by decide
  draws := by
    have hget : ∀ i, Stream'.get (Stream'.cons (KeyTerm.secret 2) start.secretKeys) i =
        .secret (i + 2) := by
      intro i
      cases i with
      | zero => rfl
      | succ i => rfl
    refine ⟨fun _ => rfl, ?_, ?_⟩
    · intro i j heq
      rw [hget, hget] at heq
      exact Nat.add_right_cancel (KeyTerm.secret.inj (KeyTerm.point.inj heq))
    · rintro i (heq | heq)
      · rw [hget] at heq
        cases KeyTerm.point.inj (DevicePubkey.mk.inj heq)
      · rw [hget] at heq
        cases KeyTerm.point.inj (DevicePubkey.mk.inj heq)

def sendHello (party : Party) (time : Nat) : ConversationStep KeyTerm :=
  .send party (hello time) [] 7000 (.secret 0) (.secret 0)

def receiveAt (index : Nat) : ConversationStep KeyTerm := .receive index (fun _ => .ok ())

end SymbolicStart

end Conversation

end NostrDoubleRatchet.TypeScript.DoubleRatchet
