import NostrDoubleRatchet.Session.Retained

/-!
Two honest sessions and the messages between them. Either party sends at any
time, and any message sent so far is delivered to either party at any time, any
number of times. The log of accepted messages and the senders accepted from are
bookkeeping for the statements; the sessions do not see them.
-/

namespace NostrDoubleRatchet

open KeySchedule

inductive Party where
  | initiator
  | responder
  deriving DecidableEq

def Party.other : Party → Party
  | initiator => responder
  | responder => initiator

/-- A message as its author sent it. `position` counts the messages sent before
it under the same sender key. -/
structure SentMessage (K T : Type) where
  author : Party
  position : Nat
  payload : T
  envelope : MessageEnvelope K T

/-- A message as its receiver accepted it. -/
structure AcceptedMessage (K T : Type) where
  receiver : Party
  sender : DevicePubkey K
  position : Nat
  payload : T

/-- `accepted` has the newest message first. `chains` lists the sender keys a party
has accepted from, the newest first. -/
structure Exchange (K T : Type) [LinearOrder K] where
  sessions : Party → Session K
  sent : List (SentMessage K T)
  accepted : List (AcceptedMessage K T)
  chains : Party → List (DevicePubkey K)
  rng : Rng K

inductive ExchangeEvent (K T : Type) where
  | send (party : Party) (bodyNonce headerNonce : K) (payload : T) (now : UnixSeconds)
  | deliver (party : Party) (index : Nat)

namespace Exchange

variable {K T : Type} [LinearOrder K] [Primitives K T]

/-- How many messages were sent under a sender key. -/
def sentOn (x : Exchange K T) (sender : DevicePubkey K) : Nat :=
  x.sent.countP (fun message => message.envelope.sender = sender)

def recordSend (x : Exchange K T) (party : Party) (plan : SendPlan K T) : Exchange K T :=
  { x with
    sessions := Function.update x.sessions party ((x.sessions party).applySend plan)
    sent := x.sent ++ [{
      author := party
      position := x.sentOn plan.envelope.sender
      payload := plan.payload
      envelope := plan.envelope }] }

def recordReceive (x : Exchange K T) (party : Party) (message : SentMessage K T)
    (plan : ReceivePlan K T) (rng : Rng K) : Exchange K T :=
  { x with
    sessions := Function.update x.sessions party ((x.sessions party).applyReceive plan)
    accepted := {
      receiver := party
      sender := plan.sender
      position := message.position
      payload := plan.payload } :: x.accepted
    chains := Function.update x.chains party
      (if plan.sender ∈ x.chains party then x.chains party else plan.sender :: x.chains party)
    rng := rng }

def step (x : Exchange K T) : ExchangeEvent K T → Exchange K T
  | .send party bodyNonce headerNonce payload now =>
      match (x.sessions party).planSend bodyNonce headerNonce payload now with
      | .ok plan => x.recordSend party plan
      | .error _ => x
  | .deliver party index =>
      match x.sent[index]? with
      | none => x
      | some message =>
          match (x.sessions party).planReceive message.envelope x.rng with
          | (.ok plan, rng) => x.recordReceive party message plan rng
          | (.error _, rng) => { x with rng := rng }

def run (x : Exchange K T) (events : List (ExchangeEvent K T)) : Exchange K T :=
  events.foldl step x

/-- Both sessions are created from the same invite key and shared secret. -/
def Started (inviteSecret initiatorSecret shared : K) (rng : Rng K) (x : Exchange K T) :
    Prop :=
  ∃ initiator responder mid,
    Session.newInitiator ⟨Primitives.publicKey inviteSecret⟩ initiatorSecret shared rng =
      (.ok initiator, mid) ∧
    Session.newResponder ⟨Primitives.publicKey initiatorSecret⟩ inviteSecret shared mid =
      (.ok responder, x.rng) ∧
    x.sessions .initiator = initiator ∧ x.sessions .responder = responder ∧
    x.sent = [] ∧ x.accepted = [] ∧ ∀ party, x.chains party = []

/-- Every secret the generator will draw is valid, and the public keys of these
secrets are new and pairwise distinct. -/
structure FreshDraws (secretKeys : Stream' K) (used : DevicePubkey K → Prop) : Prop where
  valid : ∀ i, ValidSecret (secretKeys.get i)
  inj : ∀ i j, Primitives.publicKey (secretKeys.get i) =
    Primitives.publicKey (secretKeys.get j) → i = j
  unused : ∀ i, ¬ used ⟨Primitives.publicKey (secretKeys.get i)⟩

/-! Bookkeeping of one chain, named by its sender key. -/

def acceptedAt (x : Exchange K T) (sender : DevicePubkey K) (p : Nat) : Prop :=
  ∃ a ∈ x.accepted, a.sender = sender ∧ a.position = p

instance (x : Exchange K T) (sender : DevicePubkey K) (p : Nat) :
    Decidable (x.acceptedAt sender p) :=
  inferInstanceAs (Decidable (∃ a ∈ x.accepted, _))

/-- One more than the highest accepted position. -/
def reached (x : Exchange K T) (sender : DevicePubkey K) : Nat :=
  x.accepted.foldr (fun a top => if a.sender = sender then max (a.position + 1) top else top) 0

/-- Missing positions are counted below the highest accepted one, and below the
chain's length once a later chain has replaced it. -/
def frontier (x : Exchange K T) (party : Party) (sender : DevicePubkey K) : Nat :=
  if sender ∈ (x.chains party).tail then x.sentOn sender else x.reached sender

/-- The unaccepted positions below `top`. -/
def missing (x : Exchange K T) (sender : DevicePubkey K) (top : Nat) : Finset Nat :=
  (Finset.range top).filter (fun p => ¬ x.acceptedAt sender p)

/-- In every state of the run at most `MAX_SKIP` messages of the chain were
missing. -/
def NeverOverSkipped (start : Exchange K T) (events : List (ExchangeEvent K T))
    (party : Party) (sender : DevicePubkey K) : Prop :=
  ∀ before after, events = before ++ after →
    ((start.run before).missing sender ((start.run before).frontier party sender)).card ≤ MAX_SKIP

/-! The joint invariant. -/

/-- How many key pairs the schedule has fixed. -/
def drawnCount (pos : Party → Position) : Nat :=
  max (pos .initiator).phase (pos .responder).phase + 2

/-- The length of the chain with the given index, if any. -/
def lengthAt (x : Exchange K T) (secrets : Nat → K) : Option Nat → Nat
  | none => 0
  | some c => x.sentOn (pubkey secrets c)

/-- The position a party has come to on chain `c`. -/
def reach (x : Exchange K T) (secrets : Nat → K) (pos : Position) (c : Nat) : Nat :=
  if c + 2 = pos.phase then pos.received else x.sentOn (pubkey secrets c)

/-- The chains received up to phase `q`, the newest first. -/
def receivedChains (secrets : Nat → K) : Nat → List (DevicePubkey K)
  | 0 => []
  | 1 => []
  | q + 2 => pubkey secrets q :: receivedChains secrets q

structure Consistent (secrets : Nat → K) (shared : K) (pos : Party → Position)
    (x : Exchange K T) : Prop where
  initiator_odd : (pos .initiator).phase % 2 = 1
  responder_even : (pos .responder).phase % 2 = 0
  adjacent : ∀ party, (pos party).phase ≤ (pos party.other).phase + 1
  distinct : Distinct secrets (drawnCount pos)
  fresh : FreshDraws x.rng.secretKeys (fun key => ∃ i < drawnCount pos, key = pubkey secrets i)
  atPhase : ∀ party, AtPhase secrets shared (pos party) (x.sessions party).state
  sent : ∀ m ∈ x.sent, ∃ c, c + 1 ≤ (pos m.author).phase ∧
    (c + 1) % 2 = (pos m.author).phase % 2 ∧ m.position < x.sentOn (pubkey secrets c) ∧
    HonestEnvelope secrets shared c m.position (x.lengthAt secrets (back c 2)) m.payload
      m.envelope
  positions : x.sent.Pairwise (fun a b =>
    a.envelope.sender = b.envelope.sender → a.position < b.position)
  sentCount : ∀ party, (pos party).sent = x.lengthAt secrets (back (pos party).phase 1)
  previousCount : ∀ party,
    (pos party).previous = x.lengthAt secrets (back (pos party).phase 3)
  receivedCount : ∀ party c, c + 2 = (pos party).phase →
    (pos party).received ≤ x.sentOn (pubkey secrets c)
  receivedTop : ∀ party c, c + 2 = (pos party).phase →
    ∃ a ∈ x.accepted, a.sender = pubkey secrets c ∧ a.position + 1 = (pos party).received
  accepted : ∀ a ∈ x.accepted, ∃ m ∈ x.sent, m.author ≠ a.receiver ∧
    m.envelope.sender = a.sender ∧ m.position = a.position ∧ m.payload = a.payload
  acceptedChain : ∀ a ∈ x.accepted, ∃ c, a.sender = pubkey secrets c ∧
    c + 2 ≤ (pos a.receiver).phase ∧ c % 2 = (pos a.receiver).phase % 2 ∧
    a.position < x.reach secrets (pos a.receiver) c
  acceptedOnce : x.accepted.Pairwise (fun a b =>
    a.sender = b.sender → a.position ≠ b.position)
  chains : ∀ party, x.chains party = receivedChains secrets (pos party).phase
  retained : ∀ party, RetainedKeys secrets shared (pos party).phase
    (x.reach secrets (pos party)) (fun c => x.acceptedAt (pubkey secrets c))
    (x.sessions party).state

variable {secrets secrets' : Nat → K} {shared : K} {pos : Party → Position} {x : Exchange K T}

omit [LinearOrder K] [Primitives K T] in
theorem phase_lt_drawnCount (pos : Party → Position) (party : Party) :
    (pos party).phase + 1 < drawnCount pos := by
  cases party with
  | initiator =>
      have := le_max_left (pos .initiator).phase (pos .responder).phase
      rw [drawnCount]
      omega
  | responder =>
      have := le_max_right (pos .initiator).phase (pos .responder).phase
      rw [drawnCount]
      omega

theorem Consistent.parity (h : Consistent secrets shared pos x) (party : Party) :
    (pos party.other).phase % 2 = ((pos party).phase + 1) % 2 := by
  have hodd := h.initiator_odd
  have heven := h.responder_even
  cases party with
  | initiator =>
      change (pos .responder).phase % 2 = _
      omega
  | responder =>
      change (pos .initiator).phase % 2 = _
      omega

omit [LinearOrder K] [Primitives K T] in
theorem drawnCount_eq (pos : Party → Position) (party : Party) :
    drawnCount pos = max (pos party).phase (pos party.other).phase + 2 := by
  cases party with
  | initiator => rfl
  | responder => exact congrArg (· + 2) (max_comm _ _)

section Congruence

variable {n : Nat} (hagree : ∀ i < n, secrets i = secrets' i)

include hagree

theorem lengthAt_congr (x : Exchange K T) {q d : Nat} (hq : q < n) :
    x.lengthAt secrets (back q d) = x.lengthAt secrets' (back q d) := by
  cases hback : back q d with
  | none => rfl
  | some c =>
      have := back_eq_some.mp hback
      rw [lengthAt, lengthAt, pubkey_congr hagree (by omega)]

theorem reach_congr (x : Exchange K T) (pos : Position) {c : Nat} (hc : c < n) :
    x.reach secrets pos c = x.reach secrets' pos c := by
  rw [reach, reach, pubkey_congr hagree hc]

omit [LinearOrder K] in
theorem receivedChains_congr (q : Nat) (hq : q ≤ n) :
    receivedChains secrets q = receivedChains secrets' q := by
  induction q using receivedChains.induct with
  | case1 => rfl
  | case2 => rfl
  | case3 q ih =>
      rw [receivedChains, receivedChains, ih (by omega), pubkey_congr hagree (by omega)]

end Congruence

/-- The invariant depends on the key pairs drawn so far. -/
theorem Consistent.congr (h : Consistent secrets shared pos x)
    (hagree : ∀ i < drawnCount pos, secrets i = secrets' i) :
    Consistent secrets' shared pos x := by
  have hphase : ∀ party, (pos party).phase + 1 < drawnCount pos :=
    phase_lt_drawnCount pos
  have hpub : ∀ {c}, c < drawnCount pos → pubkey secrets c = pubkey secrets' c :=
    fun hc => pubkey_congr hagree hc
  refine ⟨h.initiator_odd, h.responder_even, h.adjacent, ⟨?_, ?_⟩, ⟨h.fresh.valid, h.fresh.inj,
    ?_⟩, ?_, ?_, h.positions, ?_, ?_, ?_, ?_, h.accepted, ?_, h.acceptedOnce, ?_, ?_⟩
  · intro i hi
    rw [← hagree i hi]
    exact h.distinct.valid i hi
  · intro i j hi hj heq
    rw [← hpub hi, ← hpub hj] at heq
    exact h.distinct.inj i j hi hj heq
  · rintro i ⟨j, hj, heq⟩
    exact h.fresh.unused i ⟨j, hj, heq.trans (hpub hj).symm⟩
  · exact fun party => (h.atPhase party).congr hagree (hphase party)
  · intro m hm
    obtain ⟨c, hc, hparity, hposition, henv⟩ := h.sent m hm
    have := hphase m.author
    rw [hpub (by omega)] at hposition
    rw [lengthAt_congr hagree x (by omega)] at henv
    exact ⟨c, hc, hparity, hposition, henv.congr hagree (by omega)⟩
  · intro party
    rw [h.sentCount, lengthAt_congr hagree x (by have := hphase party; omega)]
  · intro party
    rw [h.previousCount, lengthAt_congr hagree x (by have := hphase party; omega)]
  · intro party c hc
    have := hphase party
    rw [← hpub (by omega)]
    exact h.receivedCount party c hc
  · intro party c hc
    have := hphase party
    rw [← hpub (by omega)]
    exact h.receivedTop party c hc
  · intro a ha
    obtain ⟨c, hsender, hc, hparity, hposition⟩ := h.acceptedChain a ha
    have := hphase a.receiver
    rw [reach_congr hagree x (pos a.receiver) (by omega)] at hposition
    exact ⟨c, hsender.trans (hpub (by omega)), hc, hparity, hposition⟩
  · intro party
    have := hphase party
    rw [h.chains, receivedChains_congr hagree _ (by omega)]
  · intro party
    refine (h.retained party).congr hagree (by have := hphase party; omega)
      (fun c hc => reach_congr hagree x (pos party) hc) ?_
    intro c hc
    rw [hpub hc]

/-! Sending. -/

omit [Primitives K T] in
theorem sentOn_recordSend (x : Exchange K T) (party : Party) (plan : SendPlan K T)
    (sender : DevicePubkey K) :
    (x.recordSend party plan).sentOn sender =
      x.sentOn sender + if plan.envelope.sender = sender then 1 else 0 := by
  rw [sentOn, sentOn, recordSend, List.countP_append, List.countP_singleton]
  simp

theorem lengthAt_recordSend {x : Exchange K T} {party : Party} {plan : SendPlan K T}
    (hdist : Distinct secrets (drawnCount pos)) {c q d : Nat}
    (hsender : plan.envelope.sender = pubkey secrets c) (hc : c < drawnCount pos)
    (hq : q < drawnCount pos) (hne : c + d ≠ q) :
    (x.recordSend party plan).lengthAt secrets (back q d) = x.lengthAt secrets (back q d) := by
  cases hback : back q d with
  | none => rfl
  | some e =>
      have he := back_eq_some.mp hback
      rw [lengthAt, lengthAt, sentOn_recordSend, hsender, if_neg, Nat.add_zero]
      intro heq
      have := hdist.inj c e hc (by omega) heq
      omega

omit [LinearOrder K] [Primitives K T] in
theorem eq_or_other (party p : Party) : p = party ∨ p = party.other := by
  cases party <;> cases p <;> simp [Party.other]

/-- The phases of the two parties differ in parity. -/
theorem Consistent.party_unique (h : Consistent secrets shared pos x)
    {p party : Party} (hp : (pos p).phase % 2 = (pos party).phase % 2) : p = party := by
  rcases eq_or_other party p with heq | heq
  · exact heq
  · have := h.parity party
    rw [heq] at hp
    omega

theorem Consistent.recordSend (hlaws : SymbolicLaws K) (h : Consistent secrets shared pos x)
    {party : Party} {bodyNonce headerNonce : K} {payload : T} {now : UnixSeconds}
    {plan : SendPlan K T}
    (hplan : (x.sessions party).planSend bodyNonce headerNonce payload now = .ok plan) :
    Consistent secrets shared
      (Function.update pos party { pos party with sent := (pos party).sent + 1 })
      (x.recordSend party plan) := by
  obtain ⟨c, hc, henv, hat, hskipped, hpayload⟩ := planSend_eq_ok hlaws h.distinct
    (h.atPhase party) (phase_lt_drawnCount pos party) hplan
  have hlt := phase_lt_drawnCount pos
  have hcLt : c + 2 < drawnCount pos := by
    have := hlt party
    omega
  have hcParity : (c + 1) % 2 = (pos party).phase % 2 := by rw [hc]
  have hsentOn := sentOn_recordSend x party plan
  have hmono : ∀ sender, x.sentOn sender ≤ (x.recordSend party plan).sentOn sender := by
    intro sender
    rw [hsentOn]
    exact Nat.le_add_right _ _
  have hlength : ∀ {q d}, q < drawnCount pos → c + d ≠ q →
      (x.recordSend party plan).lengthAt secrets (back q d) = x.lengthAt secrets (back q d) :=
    fun hq hne => lengthAt_recordSend h.distinct henv.sender (by omega) hq hne
  have hposition : x.sentOn plan.envelope.sender = (pos party).sent := by
    rw [h.sentCount, back_eq_some.mpr hc, henv.sender]
    rfl
  generalize hpos : Function.update pos party { pos party with sent := (pos party).sent + 1 } =
    pos'
  have hother : ∀ p, p ≠ party → pos' p = pos p := by
    intro p hp
    rw [← hpos, Function.update_of_ne hp]
  have hself : pos' party = { pos party with sent := (pos party).sent + 1 } := by
    rw [← hpos, Function.update_self]
  have hphase : ∀ p, (pos' p).phase = (pos p).phase := by
    intro p
    by_cases hp : p = party
    · rw [hp, hself]
    · rw [hother p hp]
  have hreceived : ∀ p, (pos' p).received = (pos p).received := by
    intro p
    by_cases hp : p = party
    · rw [hp, hself]
    · rw [hother p hp]
  have hdrawn : drawnCount pos' = drawnCount pos := by
    rw [drawnCount, drawnCount, hphase, hphase]
  have hreach : ∀ p d, x.reach secrets (pos p) d ≤
      (x.recordSend party plan).reach secrets (pos' p) d := by
    intro p d
    rw [reach, reach, hphase, hreceived]
    split
    · exact le_rfl
    · exact hmono _
  refine ⟨?_, ?_, ?_, ?_, ?_, ?_, ?_, ?_, ?_, ?_, ?_, ?_, ?_, ?_, h.acceptedOnce, ?_, ?_⟩
  · rw [hphase]
    exact h.initiator_odd
  · rw [hphase]
    exact h.responder_even
  · intro p
    rw [hphase, hphase]
    exact h.adjacent p
  · rw [hdrawn]
    exact h.distinct
  · rw [hdrawn]
    exact h.fresh
  · intro p
    by_cases hp : p = party
    · rw [hp, hself, Exchange.recordSend]
      simp only [Function.update_self]
      exact hat
    · rw [hother p hp, Exchange.recordSend]
      simp only [Function.update_of_ne hp]
      exact h.atPhase p
  · intro m hm
    rcases List.mem_append.mp hm with hm | hm
    · obtain ⟨d, hd, hparity, hmposition, hmenv⟩ := h.sent m hm
      have hne : c + 2 ≠ d := by
        intro heq
        have hauthor := h.party_unique (p := m.author) (by omega : _ = (pos party).phase % 2)
        rw [hauthor] at hd
        omega
      rw [hphase]
      refine ⟨d, hd, hparity, lt_of_lt_of_le hmposition (hmono _), ?_⟩
      rw [hlength (by have := hlt m.author; omega) hne]
      exact hmenv
    · obtain rfl := List.mem_singleton.mp hm
      refine ⟨c, ?_, ?_, ?_, ?_⟩
      · rw [hphase]
        exact hc.le
      · rw [hphase]
        exact hcParity
      · rw [hsentOn, henv.sender, if_pos rfl]
        exact Nat.lt_succ_self _
      · simp only
        rw [hposition, hlength (by omega) (by omega), hpayload, ← back_add c 2 1, hc,
          ← h.previousCount]
        exact henv
  · refine List.pairwise_append.mpr ⟨h.positions, List.pairwise_singleton _ _, ?_⟩
    intro a ha b hb hsender
    obtain rfl := List.mem_singleton.mp hb
    obtain ⟨d, -, -, haposition, haenv⟩ := h.sent a ha
    rw [← haenv.sender, hsender] at haposition
    exact haposition
  · intro p
    by_cases hp : p = party
    · rw [hp, hself]
      simp only
      rw [h.sentCount, back_eq_some.mpr hc, lengthAt, lengthAt, hsentOn, henv.sender,
        if_pos rfl]
    · rw [hother p hp, h.sentCount, hlength (by have := hlt p; omega)]
      intro heq
      exact hp (h.party_unique (by omega))
  · intro p
    have hprevious : (pos' p).previous = (pos p).previous := by
      by_cases hp : p = party
      · rw [hp, hself]
      · rw [hother p hp]
    rw [hprevious, hphase, h.previousCount, hlength (by have := hlt p; omega)]
    intro heq
    have hauthor := h.party_unique (p := p) (by omega : _ = (pos party).phase % 2)
    rw [hauthor] at heq
    omega
  · intro p d hd
    rw [hphase] at hd
    rw [hreceived]
    exact (h.receivedCount p d hd).trans (hmono _)
  · intro p d hd
    rw [hphase] at hd
    rw [hreceived]
    exact h.receivedTop p d hd
  · intro a ha
    obtain ⟨m, hm, hrest⟩ := h.accepted a ha
    exact ⟨m, List.mem_append_left _ hm, hrest⟩
  · intro a ha
    obtain ⟨d, hsender, hd, hparity, haposition⟩ := h.acceptedChain a ha
    rw [hphase]
    exact ⟨d, hsender, hd, hparity, lt_of_lt_of_le haposition (hreach _ _)⟩
  · intro p
    rw [hphase]
    exact h.chains p
  · intro p
    rw [hphase]
    have hkeys := (h.retained p).mono (fun d _ _ => hreach p d) (fun _ _ _ _ _ hacc => hacc)
    apply hkeys.of_skippedKeys
    by_cases hp : p = party
    · rw [hp, Exchange.recordSend]
      simp only [Function.update_self]
      exact hskipped
    · rw [Exchange.recordSend]
      simp only [Function.update_of_ne hp]

/-! Receiving. -/

omit [Primitives K T] in
theorem acceptedAt_recordReceive (x : Exchange K T) (party : Party) (m : SentMessage K T)
    (plan : ReceivePlan K T) (rng : Rng K) (sender : DevicePubkey K) (p : Nat) :
    (x.recordReceive party m plan rng).acceptedAt sender p ↔
      (plan.sender = sender ∧ m.position = p) ∨ x.acceptedAt sender p := by
  simp only [acceptedAt, recordReceive, List.mem_cons]
  constructor
  · rintro ⟨a, rfl | ha, hrest⟩
    · exact Or.inl hrest
    · exact Or.inr ⟨a, ha, hrest⟩
  · rintro (hrest | ⟨a, ha, hrest⟩)
    · exact ⟨_, Or.inl rfl, hrest⟩
    · exact ⟨a, Or.inr ha, hrest⟩

omit [LinearOrder K] in
theorem mem_receivedChains {c q : Nat} (hc : c + 2 ≤ q) (hparity : c % 2 = q % 2) :
    pubkey secrets c ∈ receivedChains secrets q := by
  induction q using receivedChains.induct with
  | case1 => omega
  | case2 => omega
  | case3 q ih =>
      rw [receivedChains]
      by_cases heq : c = q
      · rw [heq]
        exact List.mem_cons_self
      · exact List.mem_cons_of_mem _ (ih (by omega) (by omega))

omit [LinearOrder K] in
theorem of_mem_receivedChains {q : Nat} {sender : DevicePubkey K}
    (h : sender ∈ receivedChains secrets q) :
    ∃ c, c + 2 ≤ q ∧ c % 2 = q % 2 ∧ sender = pubkey secrets c := by
  induction q using receivedChains.induct with
  | case1 => cases h
  | case2 => cases h
  | case3 q ih =>
      rw [receivedChains] at h
      rcases List.mem_cons.mp h with rfl | h
      · exact ⟨q, le_rfl, by omega, rfl⟩
      · obtain ⟨c, hc, hparity, hsender⟩ := ih h
        exact ⟨c, by omega, by omega, hsender⟩

/-- A position that was not reached was not accepted. -/
theorem Consistent.acceptedAt_lt (h : Consistent secrets shared pos x) {party : Party}
    {c p : Nat} (hc : c + 2 ≤ (pos party).phase) (hparity : c % 2 = (pos party).phase % 2)
    (hacc : x.acceptedAt (pubkey secrets c) p) : p < x.reach secrets (pos party) c := by
  obtain ⟨a, ha, hsender, rfl⟩ := hacc
  obtain ⟨d, hd, hle, hdparity, hposition⟩ := h.acceptedChain a ha
  have hlt := phase_lt_drawnCount pos
  obtain rfl := h.distinct.inj c d (by have := hlt party; omega)
    (by have := hlt a.receiver; omega) (hsender.symm.trans hd)
  rw [← h.party_unique (hdparity.symm.trans hparity)]
  exact hposition

/-- Accepting a message without a ratchet step. -/
private theorem Consistent.recordReceive_samePhase (h : Consistent secrets shared pos x)
    {party : Party} {m : SentMessage K T} {plan : ReceivePlan K T} {c : Nat} (received : Nat)
    (hm : m ∈ x.sent) (hauthor : m.author ≠ party) (hmsender : m.envelope.sender = plan.sender)
    (hc : c + 2 ≤ (pos party).phase) (hparity : c % 2 = (pos party).phase % 2)
    (hsender : plan.sender = pubkey secrets c) (hpayload : plan.payload = m.payload)
    (hnew : ¬ x.acceptedAt (pubkey secrets c) m.position)
    (hle : (pos party).received ≤ received)
    (hcount : ∀ d, d + 2 = (pos party).phase → received ≤ x.sentOn (pubkey secrets d))
    (htop : ∀ d, d + 2 = (pos party).phase → received = (pos party).received ∨
      (c = d ∧ m.position + 1 = received))
    (hreach : m.position < x.reach secrets { pos party with received := received } c)
    (hat : AtPhase secrets shared { pos party with received := received } plan.nextState)
    (hretained : RetainedKeys secrets shared (pos party).phase
      (x.reach secrets { pos party with received := received })
      (fun d p => x.acceptedAt (pubkey secrets d) p ∨ (d = c ∧ p = m.position))
      plan.nextState) :
    Consistent secrets shared
      (Function.update pos party { pos party with received := received })
      (x.recordReceive party m plan x.rng) := by
  have hlt := phase_lt_drawnCount pos
  generalize hpos : Function.update pos party { pos party with received := received } = pos'
  have hother : ∀ p, p ≠ party → pos' p = pos p := by
    intro p hp
    rw [← hpos, Function.update_of_ne hp]
  have hself : pos' party = { pos party with received := received } := by
    rw [← hpos, Function.update_self]
  have hphase : ∀ p, (pos' p).phase = (pos p).phase := by
    intro p
    by_cases hp : p = party
    · rw [hp, hself]
    · rw [hother p hp]
  have hdrawn : drawnCount pos' = drawnCount pos := by
    rw [drawnCount, drawnCount, hphase, hphase]
  have hreachLe : ∀ p d, x.reach secrets (pos p) d ≤ x.reach secrets (pos' p) d := by
    intro p d
    by_cases hp : p = party
    · rw [hp, hself, reach, reach]
      split
      · exact hle
      · exact le_rfl
    · rw [hother p hp]
  have haccepted : ∀ d p, d < drawnCount pos →
      ((x.recordReceive party m plan x.rng).acceptedAt (pubkey secrets d) p ↔
        x.acceptedAt (pubkey secrets d) p ∨ (d = c ∧ p = m.position)) := by
    intro d p hd
    have heq : pubkey secrets c = pubkey secrets d ↔ d = c :=
      ⟨fun heq => (h.distinct.inj c d (by have := hlt party; omega) hd heq).symm,
        fun heq => by rw [heq]⟩
    rw [acceptedAt_recordReceive, hsender, heq, or_comm, @eq_comm _ m.position]
  have hchain : plan.sender ∈ x.chains party := by
    rw [h.chains, hsender]
    exact mem_receivedChains hc hparity
  refine ⟨?_, ?_, ?_, ?_, ?_, ?_, ?_, h.positions, ?_, ?_, ?_, ?_, ?_, ?_, ?_, ?_, ?_⟩
  · rw [hphase]
    exact h.initiator_odd
  · rw [hphase]
    exact h.responder_even
  · intro p
    rw [hphase, hphase]
    exact h.adjacent p
  · rw [hdrawn]
    exact h.distinct
  · rw [hdrawn]
    exact h.fresh
  · intro p
    by_cases hp : p = party
    · rw [hp, hself, Exchange.recordReceive]
      simp only [Function.update_self]
      exact hat
    · rw [hother p hp, Exchange.recordReceive]
      simp only [Function.update_of_ne hp]
      exact h.atPhase p
  · intro a ha
    rw [hphase]
    exact h.sent a ha
  · intro p
    by_cases hp : p = party
    · rw [hp, hself]
      exact h.sentCount party
    · rw [hother p hp]
      exact h.sentCount p
  · intro p
    by_cases hp : p = party
    · rw [hp, hself]
      exact h.previousCount party
    · rw [hother p hp]
      exact h.previousCount p
  · intro p d hd
    rw [hphase] at hd
    by_cases hp : p = party
    · subst hp
      rw [hself]
      exact hcount d hd
    · rw [hother p hp]
      exact h.receivedCount p d hd
  · intro p d hd
    rw [hphase] at hd
    obtain ⟨a, ha, hasender, haposition⟩ := h.receivedTop p d hd
    by_cases hp : p = party
    · subst hp
      rw [hself]
      rcases htop d hd with heq | ⟨rfl, heq⟩
      · exact ⟨a, List.mem_cons_of_mem _ ha, hasender, haposition.trans heq.symm⟩
      · exact ⟨_, List.mem_cons_self, hsender, heq⟩
    · rw [hother p hp]
      exact ⟨a, List.mem_cons_of_mem _ ha, hasender, haposition⟩
  · intro a ha
    rcases List.mem_cons.mp ha with rfl | ha
    · exact ⟨m, hm, hauthor, hmsender, rfl, hpayload.symm⟩
    · exact h.accepted a ha
  · intro a ha
    rcases List.mem_cons.mp ha with rfl | ha
    · refine ⟨c, hsender, ?_, ?_, ?_⟩
      · rw [hphase]
        exact hc
      · rw [hphase]
        exact hparity
      · change m.position < x.reach secrets (pos' party) c
        rw [hself]
        exact hreach
    · obtain ⟨d, hdsender, hd, hdparity, haposition⟩ := h.acceptedChain a ha
      rw [hphase]
      exact ⟨d, hdsender, hd, hdparity, lt_of_lt_of_le haposition (hreachLe _ _)⟩
  · refine List.pairwise_cons.mpr ⟨?_, h.acceptedOnce⟩
    intro a ha hasender heq
    exact hnew ⟨a, ha, hasender.symm.trans hsender, heq.symm⟩
  · intro p
    rw [hphase, ← h.chains, Exchange.recordReceive]
    by_cases hp : p = party
    · rw [hp]
      simp only [Function.update_self, if_pos hchain]
    · simp only [Function.update_of_ne hp]
  · intro p
    rw [hphase, Exchange.recordReceive]
    by_cases hp : p = party
    · rw [hp, hself]
      simp only [Function.update_self]
      refine hretained.mono (fun d _ _ => le_rfl) ?_
      intro d y hd _ _ hacc
      exact (haccepted d y (by have := hlt party; omega)).mp hacc
    · rw [hother p hp]
      simp only [Function.update_of_ne hp]
      refine (h.retained p).mono (fun d _ _ => le_rfl) ?_
      intro d y hd hdparity _ hacc
      rcases (haccepted d y (by have := hlt p; omega)).mp hacc with hacc | ⟨rfl, -⟩
      · exact hacc
      · exact absurd (h.party_unique (hdparity.symm.trans hparity)) hp

/-- No message was sent under a key pair that no message names. -/
private theorem Consistent.sentOn_unused (h : Consistent secrets shared pos x) {d : Nat}
    (party : Party) (hd : d < drawnCount pos) (hphase : (pos party).phase ≤ d)
    (hparity : (d + 1) % 2 = (pos party).phase % 2) : x.sentOn (pubkey secrets d) = 0 := by
  rw [sentOn, List.countP_eq_zero]
  intro m hm hsender
  obtain ⟨c, hc, hcParity, -, henv⟩ := h.sent m hm
  have hlt := phase_lt_drawnCount pos m.author
  obtain rfl := h.distinct.inj c d (by omega) hd
    (henv.sender.symm.trans (of_decide_eq_true hsender))
  have hauthor := h.party_unique (hcParity.symm.trans hparity)
  rw [hauthor] at hc
  omega

omit [LinearOrder K] in
theorem distinct_draw {n : Nat} (hdist : Distinct secrets n) {secretKeys : Stream' K}
    (hfresh : FreshDraws secretKeys (fun key => ∃ i < n, key = pubkey secrets i)) :
    Distinct (draw secrets n secretKeys.head) (n + 1) ∧
      FreshDraws secretKeys.tail
        (fun key => ∃ i < n + 1, key = pubkey (draw secrets n secretKeys.head) i) := by
  have hold : ∀ i < n, pubkey (draw secrets n secretKeys.head) i = pubkey secrets i := by
    intro i hi
    rw [pubkey, pubkey, ← draw_of_lt secrets secretKeys.head hi]
  have hnew : pubkey (draw secrets n secretKeys.head) n =
      ⟨Primitives.publicKey (secretKeys.get 0)⟩ := by
    rw [pubkey, draw_self]
  refine ⟨⟨?_, ?_⟩, ⟨fun i => hfresh.valid (i + 1), ?_, ?_⟩⟩
  · intro i hi
    rcases Nat.lt_succ_iff_lt_or_eq.mp hi with hi | rfl
    · rw [← draw_of_lt secrets secretKeys.head hi]
      exact hdist.valid i hi
    · rw [draw_self]
      exact hfresh.valid 0
  · intro i j hi hj heq
    rcases Nat.lt_succ_iff_lt_or_eq.mp hi with hi | rfl
    · rcases Nat.lt_succ_iff_lt_or_eq.mp hj with hj | rfl
      · rw [hold i hi, hold j hj] at heq
        exact hdist.inj i j hi hj heq
      · rw [hold i hi, hnew] at heq
        exact absurd ⟨i, hi, heq.symm⟩ (hfresh.unused 0)
    · rcases Nat.lt_succ_iff_lt_or_eq.mp hj with hj | rfl
      · rw [hold j hj, hnew] at heq
        exact absurd ⟨j, hj, heq⟩ (hfresh.unused 0)
      · rfl
  · intro i j heq
    exact Nat.succ.inj (hfresh.inj (i + 1) (j + 1) heq)
  · rintro i ⟨j, hj, heq⟩
    rcases Nat.lt_succ_iff_lt_or_eq.mp hj with hj | rfl
    · exact hfresh.unused (i + 1) ⟨j, hj, heq.trans (hold j hj)⟩
    · rw [hnew] at heq
      exact absurd (hfresh.inj (i + 1) 0 (DevicePubkey.mk.inj heq)) (Nat.succ_ne_zero i)

/-- Nothing was accepted from the chain the next ratchet step starts. -/
theorem Consistent.not_acceptedAt_next (h : Consistent secrets shared pos x)
    (party : Party) {c : Nat} (hphase : c = (pos party).phase) (p : Nat) :
    ¬ x.acceptedAt (pubkey secrets c) p := by
  rintro ⟨a, ha, hsender, -⟩
  obtain ⟨d, hdsender, hd, hdparity, -⟩ := h.acceptedChain a ha
  have hlt := phase_lt_drawnCount pos
  obtain rfl := h.distinct.inj c d (by have := hlt party; omega)
    (by have := hlt a.receiver; omega) (hsender.symm.trans hdsender)
  rw [h.party_unique (hdparity.symm.trans (by rw [hphase]))] at hd
  omega

/-- Accepting a message of the next chain, with a ratchet step. -/
private theorem Consistent.recordReceive_ratchet (h : Consistent secrets shared pos x)
    {party : Party} {m : SentMessage K T} {plan : ReceivePlan K T} {c : Nat}
    (hm : m ∈ x.sent) (hauthor : m.author ≠ party) (hmsender : m.envelope.sender = plan.sender)
    (hphase : c = (pos party).phase) (hotherPhase : (pos party.other).phase = c + 1)
    (hsender : plan.sender = pubkey secrets c) (hpayload : plan.payload = m.payload)
    (hposition : m.position < x.sentOn (pubkey secrets c))
    (hat : AtPhase (draw secrets (c + 3) x.rng.secretKeys.head) shared
      ⟨c + 2, 0, (pos party).sent, m.position + 1⟩ plan.nextState)
    (hretained : RetainedKeys (draw secrets (c + 3) x.rng.secretKeys.head) shared (c + 2)
      (fun d => if d = c then m.position + 1 else x.sentOn (pubkey secrets d))
      (fun d p => x.acceptedAt (pubkey secrets d) p ∨ (d = c ∧ p = m.position))
      plan.nextState) :
    Consistent (draw secrets (c + 3) x.rng.secretKeys.head) shared
      (Function.update pos party ⟨c + 2, 0, (pos party).sent, m.position + 1⟩)
      (x.recordReceive party m plan
        { x.rng with secretKeys := x.rng.secretKeys.tail }) := by
  have hdrawn : drawnCount pos = c + 3 := by
    rw [drawnCount_eq pos party]
    omega
  have hagree : ∀ i < drawnCount pos,
      secrets i = draw secrets (c + 3) x.rng.secretKeys.head i := by
    intro i hi
    exact draw_of_lt secrets x.rng.secretKeys.head (by omega)
  obtain ⟨hdist, hfresh⟩ := distinct_draw h.distinct h.fresh
  rw [hdrawn] at hdist hfresh
  have hpub : ∀ {d}, d < c + 3 →
      pubkey secrets d = pubkey (draw secrets (c + 3) x.rng.secretKeys.head) d :=
    fun hd => pubkey_congr hagree (by omega)
  have hlt := phase_lt_drawnCount pos
  replace h := h.congr hagree
  rw [hpub (by omega)] at hsender hposition
  generalize hsecrets : draw secrets (c + 3) x.rng.secretKeys.head = secrets' at *
  generalize hpos : Function.update pos party ⟨c + 2, 0, (pos party).sent, m.position + 1⟩ =
    pos'
  have hother : ∀ p, p ≠ party → pos' p = pos p := by
    intro p hp
    rw [← hpos, Function.update_of_ne hp]
  have hself : pos' party = ⟨c + 2, 0, (pos party).sent, m.position + 1⟩ := by
    rw [← hpos, Function.update_self]
  have hotherSelf : pos' party.other = pos party.other := by
    apply hother
    cases party <;> simp [Party.other]
  have hphaseLe : ∀ p, (pos p).phase ≤ (pos' p).phase := by
    intro p
    by_cases hp : p = party
    · rw [hp, hself]
      simp only
      omega
    · rw [hother p hp]
  have hphaseParity : ∀ p, (pos' p).phase % 2 = (pos p).phase % 2 := by
    intro p
    by_cases hp : p = party
    · rw [hp, hself]
      simp only
      omega
    · rw [hother p hp]
  have hdrawn' : drawnCount pos' = c + 4 := by
    rw [drawnCount_eq pos' party, hself, hotherSelf]
    simp only
    omega
  have hreachLe : ∀ p d, d + 2 ≤ (pos p).phase →
      x.reach secrets' (pos p) d ≤ x.reach secrets' (pos' p) d := by
    intro p d hd
    by_cases hp : p = party
    · subst hp
      have hne : d + 2 ≠ c + 2 := by omega
      rw [hself, reach, reach, if_neg hne]
      split
      · rename_i heq
        exact h.receivedCount p d heq
      · exact le_rfl
    · rw [hother p hp]
  have haccepted : ∀ d p, d < c + 3 →
      ((x.recordReceive party m plan { x.rng with secretKeys := x.rng.secretKeys.tail }).acceptedAt
          (pubkey secrets' d) p ↔
        x.acceptedAt (pubkey secrets' d) p ∨ (d = c ∧ p = m.position)) := by
    intro d p hd
    have heq : pubkey secrets' c = pubkey secrets' d ↔ d = c :=
      ⟨fun heq => (hdist.inj c d (by omega) (by omega) heq).symm, fun heq => by rw [heq]⟩
    rw [acceptedAt_recordReceive, hsender, heq, or_comm, @eq_comm _ m.position]
  have hchain : plan.sender ∉ x.chains party := by
    rw [h.chains, hsender]
    intro hmem
    obtain ⟨d, hd, -, heq⟩ := of_mem_receivedChains hmem
    have := hdist.inj c d (by omega) (by omega) heq
    omega
  have hunsent : x.sentOn (pubkey secrets' (c + 1)) = 0 :=
    h.sentOn_unused party (by omega) (by omega) (by omega)
  refine ⟨?_, ?_, ?_, ?_, ?_, ?_, ?_, h.positions, ?_, ?_, ?_, ?_, ?_, ?_, ?_, ?_, ?_⟩
  · rw [hphaseParity]
    exact h.initiator_odd
  · rw [hphaseParity]
    exact h.responder_even
  · intro p
    rcases eq_or_other party p with rfl | rfl
    · rw [hself, hotherSelf, hotherPhase]
    · have hback : party.other.other = party := by
        cases party <;> rfl
      rw [hotherSelf, hback, hself, hotherPhase]
      simp only
      omega
  · rw [hdrawn']
    exact hdist
  · rw [hdrawn']
    exact hfresh
  · intro p
    rw [Exchange.recordReceive]
    by_cases hp : p = party
    · rw [hp, hself]
      simp only [Function.update_self]
      exact hat
    · rw [hother p hp]
      simp only [Function.update_of_ne hp]
      exact h.atPhase p
  · intro a ha
    obtain ⟨d, hd, hdparity, haposition, haenv⟩ := h.sent a ha
    refine ⟨d, hd.trans (hphaseLe _), ?_, haposition, haenv⟩
    rw [hphaseParity]
    exact hdparity
  · intro p
    by_cases hp : p = party
    · rw [hp, hself, back_eq_some.mpr (rfl : c + 1 + 1 = c + 2)]
      exact hunsent.symm
    · rw [hother p hp]
      exact h.sentCount p
  · intro p
    by_cases hp : p = party
    · rw [hp, hself]
      simp only
      rw [back_add c 1 2, hphase]
      exact h.sentCount party
    · rw [hother p hp]
      exact h.previousCount p
  · intro p d hd
    by_cases hp : p = party
    · subst hp
      rw [hself] at hd ⊢
      obtain rfl : d = c := Nat.add_right_cancel hd
      exact hposition
    · rw [hother p hp] at hd ⊢
      exact h.receivedCount p d hd
  · intro p d hd
    by_cases hp : p = party
    · subst hp
      rw [hself] at hd ⊢
      obtain rfl : d = c := Nat.add_right_cancel hd
      exact ⟨_, List.mem_cons_self, hsender, rfl⟩
    · rw [hother p hp] at hd ⊢
      obtain ⟨a, ha, hrest⟩ := h.receivedTop p d hd
      exact ⟨a, List.mem_cons_of_mem _ ha, hrest⟩
  · intro a ha
    rcases List.mem_cons.mp ha with rfl | ha
    · exact ⟨m, hm, hauthor, hmsender, rfl, hpayload.symm⟩
    · exact h.accepted a ha
  · intro a ha
    rcases List.mem_cons.mp ha with rfl | ha
    · refine ⟨c, hsender, ?_, ?_, ?_⟩
      · simp only [hself, le_refl]
      · simp only [hself, Nat.add_mod_right]
      · simp only [hself, reach, if_true]
        exact Nat.lt_succ_self _
    · obtain ⟨d, hdsender, hd, hdparity, haposition⟩ := h.acceptedChain a ha
      refine ⟨d, hdsender, hd.trans (hphaseLe _), ?_,
        lt_of_lt_of_le haposition (hreachLe _ _ hd)⟩
      rw [hphaseParity]
      exact hdparity
  · refine List.pairwise_cons.mpr ⟨?_, h.acceptedOnce⟩
    intro a ha hasender
    exact absurd ⟨a, ha, hasender.symm.trans hsender, rfl⟩
      (h.not_acceptedAt_next party hphase a.position)
  · intro p
    rw [Exchange.recordReceive]
    by_cases hp : p = party
    · rw [hp, hself]
      simp only [Function.update_self, if_neg hchain]
      rw [receivedChains, hsender, h.chains, ← hphase]
    · rw [hother p hp]
      simp only [Function.update_of_ne hp]
      exact h.chains p
  · intro p
    rw [Exchange.recordReceive]
    by_cases hp : p = party
    · rw [hp, hself]
      simp only [Function.update_self]
      refine hretained.mono ?_ ?_
      · intro d hd _
        simp only [reach, Nat.add_right_cancel_iff]
        split
        · exact le_rfl
        · rw [hpub (by omega)]
          exact le_rfl
      · intro d y hd _ _ hacc
        rw [hpub (by omega)]
        exact (haccepted d y (by omega)).mp hacc
    · rw [hother p hp]
      simp only [Function.update_of_ne hp]
      refine (h.retained p).mono (fun d _ _ => le_rfl) ?_
      intro d y hd hdparity _ hacc
      have := hlt p
      rcases (haccepted d y (by omega)).mp hacc with hacc | ⟨rfl, -⟩
      · exact hacc
      · exact absurd (h.party_unique (hdparity.symm.trans (by rw [hphase]))) hp

/-- The retained keys once the receiving chain is retired. -/
theorem Consistent.retained_retired (h : Consistent secrets shared pos x)
    (party : Party) {c : Nat} {mid : SessionState K} (hphase : c = (pos party).phase)
    (hkeys : mid.skippedKeys = retiredKeys secrets shared (pos party)
      (x.lengthAt secrets (back c 2)) (x.sessions party).state) :
    RetainedKeys secrets shared (c + 2)
      (fun d => if d = c then 0 else x.sentOn (pubkey secrets d))
      (fun d => x.acceptedAt (pubkey secrets d)) mid := by
  have hlt := phase_lt_drawnCount pos party
  apply RetainedKeys.raise
  · have hold := h.retained party
    rw [← hphase] at hold
    rw [retiredKeys, ← hphase] at hkeys
    cases hback : back c 2 with
    | none =>
        rw [hback] at hkeys
        refine (hold.of_skippedKeys hkeys).mono ?_ (fun _ _ _ _ _ hacc => hacc)
        intro d hd _
        rw [back_eq_some.mpr (by omega : c - 2 + 2 = c)] at hback
        cases hback
    | some e =>
        have he := back_eq_some.mp hback
        rw [hback] at hkeys
        have hreach : x.reach secrets (pos party) e = (pos party).received :=
          if_pos (by omega)
        have hskip := hold.skipTo h.distinct he (by omega) (h.atPhase party).receivingNumber
          hreach (fun y hacc => hreach ▸ h.acceptedAt_lt (by omega) (by omega) hacc)
          (Nat.mod_lt (x.lengthAt secrets (some e)) (by decide : 2 ^ 32 > 0))
        refine (hskip.of_skippedKeys hkeys).mono ?_ (fun _ _ _ _ _ hacc => hacc)
        intro d hd _
        have hcount := h.receivedCount party e (by omega)
        have hlength : x.lengthAt secrets (some e) = x.sentOn (pubkey secrets e) := rfl
        rw [if_neg (by omega : ¬ d = c)]
        split
        · rename_i heq
          rw [heq, hlength]
          omega
        · rw [reach, if_neg (by omega)]
  · have hretained := h.retained party
    exact skippedFrom_retired h.distinct hretained hphase (by omega) hkeys

/-- How a party at `pos` accepts message `m`: with a retained key, with a later key
of its receiving chain, or as the first message of the next chain. The last two
indices are the key pairs and the positions afterwards. -/
inductive Reception (secrets : Nat → K) (shared : K) (pos : Party → Position)
    (x : Exchange K T) (party : Party) (m : SentMessage K T) (plan : ReceivePlan K T) :
    (Nat → K) → (Party → Position) → Prop
  | retained (c : Nat) (hphase : c + 2 ≤ (pos party).phase)
      (hparity : c % 2 = (pos party).phase % 2)
      (hsender : plan.sender = pubkey secrets c)
      (hreach : m.position < x.reach secrets (pos party) c)
      (hnext : plan.nextState =
        (x.sessions party).state.consume (m.position % 2 ^ 32) (pubkey secrets c)) :
      Reception secrets shared pos x party m plan secrets pos
  | later (c : Nat) (hphase : c + 2 = (pos party).phase)
      (hsender : plan.sender = pubkey secrets c)
      (hposition : m.position < x.sentOn (pubkey secrets c))
      (hskip : (pos party).received +
        (m.position % 2 ^ 32 - (pos party).received % 2 ^ 32) = m.position)
      (hnext : plan.nextState = (x.sessions party).state.forward
        (chainKey secrets shared c (pos party).received) (m.position % 2 ^ 32)
        (pubkey secrets c)) :
      Reception secrets shared pos x party m plan secrets
        (Function.update pos party { pos party with received := m.position + 1 })
  | ratchet (c : Nat) (mid : SessionState K) (hphase : c = (pos party).phase)
      (hsender : plan.sender = pubkey secrets c)
      (hposition : m.position < x.sentOn (pubkey secrets c))
      (hmid : AtPhase (draw secrets (c + 3) x.rng.secretKeys.head) shared
        ⟨c + 2, 0, (pos party).sent, 0⟩ mid)
      (hkeys : mid.skippedKeys = retiredKeys secrets shared (pos party)
        (x.lengthAt secrets (back c 2)) (x.sessions party).state)
      (hnext : plan.nextState = mid.forward
        (chainKey (draw secrets (c + 3) x.rng.secretKeys.head) shared c 0)
        (m.position % 2 ^ 32) (pubkey secrets c)) :
      Reception secrets shared pos x party m plan
        (draw secrets (c + 3) x.rng.secretKeys.head)
        (Function.update pos party ⟨c + 2, 0, (pos party).sent, m.position + 1⟩)

/-- Accepting any message keeps the invariant. -/
theorem Consistent.recordReceive (hlaws : SymbolicLaws K) (h : Consistent secrets shared pos x)
    {party : Party} {m : SentMessage K T} (hm : m ∈ x.sent) {plan : ReceivePlan K T}
    {rng : Rng K}
    (hplan : (x.sessions party).planReceive m.envelope x.rng = (.ok plan, rng)) :
    ∃ secrets' pos', Consistent secrets' shared pos' (x.recordReceive party m plan rng) ∧
      Reception secrets shared pos x party m plan secrets' pos' ∧
      ∀ i < drawnCount pos, secrets i = secrets' i := by
  obtain ⟨c, hc, hcParity, hposition, henv⟩ := h.sent m hm
  have hlt := phase_lt_drawnCount pos
  have hcLt : c + 2 < drawnCount pos := by
    have := hlt m.author
    omega
  have hreachSelf : ∀ d, d + 2 = (pos party).phase →
      x.reach secrets (pos party) d = (pos party).received := fun d hd => if_pos hd
  have hadjacent := h.adjacent party
  obtain ⟨hsender, hpayload, hpath⟩ := planReceive_cases hlaws h.distinct (h.atPhase party)
    (h.retained party) (hlt party) henv hcLt (h.fresh.valid 0) hplan
  have hmsender : m.envelope.sender = plan.sender := henv.sender.trans hsender.symm
  have hauthor : c % 2 = (pos party).phase % 2 → m.author ≠ party := by
    rintro hparity rfl
    omega
  rcases hpath with ⟨hle, -, hparity, rfl, hreach, hnew, hnext⟩ | ⟨hphase, rfl, hp, hnext⟩ |
    ⟨hphase, rfl, -, hp, mid, hmid, hkeys, hnext⟩
  · refine ⟨secrets, pos, ?_, .retained c hle hparity hsender hreach hnext, fun _ _ => rfl⟩
    have hkeep := h.recordReceive_samePhase (pos party).received hm (hauthor hparity) hmsender
      hle hparity hsender hpayload hnew le_rfl (h.receivedCount party) (fun _ _ => Or.inl rfl)
      hreach
    rw [Function.update_eq_self] at hkeep
    apply hkeep
    · rw [hnext]
      exact (h.atPhase party).consume _ _
    · rw [hnext]
      exact (h.retained party).consume h.distinct hle hparity (by have := hlt party; omega)
  · have hparity : c % 2 = (pos party).phase % 2 := by omega
    have hnew : ¬ x.acceptedAt (pubkey secrets c) m.position := by
      intro hacc
      have := h.acceptedAt_lt hphase.le hparity hacc
      rw [hreachSelf c hphase] at this
      omega
    refine ⟨secrets, _, h.recordReceive_samePhase (m.position + 1) hm
      (hauthor hparity) hmsender hphase.le hparity hsender hpayload hnew (by omega) ?_ ?_ ?_ ?_ ?_,
      .later c hphase hsender hposition hp hnext, fun _ _ => rfl⟩
    · intro d hd
      obtain rfl : d = c := by omega
      exact hposition
    · intro d hd
      exact Or.inr ⟨by omega, rfl⟩
    · rw [reach, if_pos hphase]
      exact Nat.lt_succ_self _
    · rw [hnext]
      exact (h.atPhase party).forward hphase hp
    · rw [hnext]
      refine ((h.retained party).forward h.distinct hphase (by have := hlt party; omega)
        (h.atPhase party).receivingNumber (hreachSelf c hphase) ?_ hp).mono ?_
        (fun _ _ _ _ _ hacc => hacc)
      · intro y hacc
        rw [← hreachSelf c hphase]
        exact h.acceptedAt_lt hphase.le hparity hacc
      · intro d _ _
        simp only
        split
        · rename_i heq
          rw [reach, heq, if_pos hphase]
        · rename_i hne
          have hd : d + 2 ≠ (pos party).phase := by omega
          simp only [reach, if_neg hd, le_refl]
  · have hauthorOther : m.author = party.other :=
      (eq_or_other party m.author).resolve_left (hauthor (by rw [hphase]))
    have hotherPhase : (pos party.other).phase = c + 1 := by
      have hback : party.other.other = party := by
        cases party <;> rfl
      have hle := h.adjacent party.other
      rw [hback] at hle
      rw [hauthorOther] at hc
      omega
    have hagree : ∀ i < c + 3, secrets i = draw secrets (c + 3) x.rng.secretKeys.head i :=
      fun i hi => draw_of_lt secrets x.rng.secretKeys.head hi
    have hdrawn : drawnCount pos = c + 3 := by
      rw [drawnCount_eq pos party]
      omega
    obtain ⟨hdist, -⟩ := distinct_draw h.distinct h.fresh
    rw [hdrawn] at hdist
    have hreception : Reception secrets shared pos x party m plan _ _ :=
      .ratchet c mid hphase hsender hposition hmid hkeys hnext
    rw [pubkey_congr hagree (by omega : c < c + 3)] at hnext
    refine ⟨_, _, h.recordReceive_ratchet hm (hauthor (by rw [hphase])) hmsender hphase hotherPhase
      hsender hpayload hposition ?_ ?_, hreception, fun i hi => hagree i (by omega)⟩
    · rw [hnext]
      exact hmid.forward rfl (by simpa using hp)
    · rw [hnext]
      have hretired := h.retained_retired party hphase hkeys
      refine ((hretired.congr hagree (by omega) (fun _ _ => rfl) (fun _ _ => rfl)).forward hdist
        rfl (by omega) hmid.receivingNumber (if_pos rfl) ?_ (by simpa using hp)).mono ?_
        (fun _ _ _ _ _ hacc => hacc)
      · intro y hacc
        exact absurd hacc (h.not_acceptedAt_next party hphase y)
      · intro d _ _
        by_cases heq : d = c
        · rw [if_pos heq, if_pos heq]
        · rw [if_neg heq, if_neg heq, if_neg heq]

/-! The start. -/

omit [LinearOrder K] in
private theorem responderTweak_agree (hlaws : SymbolicLaws K) {inviteSecret initiatorSecret : K}
    (hinvite : ValidSecret inviteSecret) (hinitiator : ValidSecret initiatorSecret)
    (a b : DevicePubkey K) :
    responderTweak initiatorSecret ⟨Primitives.publicKey inviteSecret⟩ a b =
      responderTweak inviteSecret ⟨Primitives.publicKey initiatorSecret⟩ a b := by
  obtain ⟨key, hab, hba⟩ := hlaws.agree hinvite hinitiator
  have hnostr : ∀ {secret : K}, ValidSecret secret →
      (⟨Primitives.publicKey secret⟩ : DevicePubkey K).toNostr =
        .ok (Primitives.publicKey secret) :=
    fun hvalid => mapError_eq_ok.mpr (hlaws.publicKey_valid hvalid)
  have hkey1 : deriveConversationKey initiatorSecret (Primitives.publicKey inviteSecret) =
      .ok key := mapError_eq_ok.mpr hba
  have hkey2 : deriveConversationKey inviteSecret (Primitives.publicKey initiatorSecret) =
      .ok key := mapError_eq_ok.mpr hab
  rw [responderTweak, responderTweak, secretKeyFromBytes_valid hinvite,
    secretKeyFromBytes_valid hinitiator, hnostr hinvite, hnostr hinitiator]
  change deriveConversationKey initiatorSecret _ >>= _ =
    deriveConversationKey inviteSecret _ >>= _
  rw [hkey1, hkey2]

omit [LinearOrder K] in
/-- Both sides derive the same responder key. -/
theorem responder_agree (hlaws : SymbolicLaws K) {inviteSecret initiatorSecret : K}
    {blinded : DevicePubkey K} {secret : K}
    (hpublic : privateResponderPublicKey initiatorSecret ⟨Primitives.publicKey inviteSecret⟩ =
      .ok blinded)
    (hsecret : privateResponderSecretKey inviteSecret ⟨Primitives.publicKey initiatorSecret⟩ =
      .ok secret) :
    ValidSecret initiatorSecret ∧ blinded = ⟨Primitives.publicKey secret⟩ := by
  rw [privateResponderPublicKey, except_bind_eq_ok] at hpublic
  obtain ⟨initiatorPublic, hinitiatorPublic, hpublic⟩ := hpublic
  rw [devicePubkeyFromSecretBytes, except_bind_eq_ok] at hinitiatorPublic
  obtain ⟨initiator, hinitiator, hinitiatorPublic⟩ := hinitiatorPublic
  obtain rfl := secretKeyFromBytes_eq_ok hlaws hinitiator
  cases hinitiatorPublic
  rw [privateResponderSecretKey, except_bind_eq_ok] at hsecret
  obtain ⟨invitePublic, hinvitePublic, hsecret⟩ := hsecret
  rw [devicePubkeyFromSecretBytes, except_bind_eq_ok] at hinvitePublic
  obtain ⟨invite, hinvite, hinvitePublic⟩ := hinvitePublic
  obtain rfl := secretKeyFromBytes_eq_ok hlaws hinvite
  cases hinvitePublic
  have hinitiatorValid : ValidSecret initiator := mapError_eq_ok.mp hinitiator
  have hinviteValid : ValidSecret invite := mapError_eq_ok.mp hinvite
  refine ⟨hinitiatorValid, ?_⟩
  rw [responderTweak_agree hlaws hinviteValid hinitiatorValid, except_bind_eq_ok] at hpublic
  obtain ⟨tweak, htweak, hpublic⟩ := hpublic
  rw [htweak] at hsecret
  change (Primitives.secretKeyFromSlice invite).mapError _ >>= _ = _ at hsecret
  rw [except_bind_eq_ok] at hsecret
  obtain ⟨normal, hnormal, hsecret⟩ := hsecret
  obtain rfl := hlaws.secretKey_eq (mapError_eq_ok.mp hnormal)
  rw [except_bind_eq_ok] at hpublic
  obtain ⟨point, hpoint, hpublic⟩ := hpublic
  have hpointEq : point = Primitives.publicKey normal := Except.ok.inj
    ((mapError_eq_ok.mp hpoint).symm.trans (hlaws.publicKey_valid hinviteValid))
  rw [hpointEq] at hpublic
  split at hpublic
  · simp only at hsecret
    cases htweaked : Primitives.secretAddTweak
        (if Primitives.hasOddY normal then Primitives.negateSecret normal else normal) tweak with
    | none =>
        rw [htweaked] at hsecret
        cases hsecret
    | some tweaked =>
        rw [htweaked] at hsecret
        cases hsecret
        rw [hlaws.tweak_publicKey hinviteValid htweaked] at hpublic
        exact (Except.ok.inj hpublic).symm
  · cases hpublic

/-- The first key pairs of the schedule. -/
def startSecrets (initiatorSecret responderSecret first : K) : Nat → K
  | 0 => initiatorSecret
  | 1 => responderSecret
  | _ => first

def positions (initiator responder : Position) : Party → Position
  | .initiator => initiator
  | .responder => responder

def startPosition : Party → Position := positions ⟨1, 0, 0, 0⟩ ⟨0, 0, 0, 0⟩

theorem newInitiator_eq_ok (hlaws : SymbolicLaws K) {theirs : DevicePubkey K}
    {initiatorSecret responderSecret shared : K} {rng rng' : Rng K} {session : Session K}
    (hblinded : privateResponderPublicKey initiatorSecret theirs =
      .ok ⟨Primitives.publicKey responderSecret⟩)
    (hvalid : ValidSecret responderSecret)
    (h : Session.newInitiator theirs initiatorSecret shared rng = (.ok session, rng')) :
    rng' = { rng with secretKeys := rng.secretKeys.tail } ∧
      AtPhase (startSecrets initiatorSecret responderSecret rng.secretKeys.head) shared
        ⟨1, 0, 0, 0⟩ session.state ∧ session.state.skippedKeys = SortedMap.empty := by
  rw [Session.newInitiator, Session.initWithContext] at h
  have hpair : (if true = true then do
      let blinded ← privateResponderPublicKey initiatorSecret theirs
      pure (blinded, initiatorSecret)
    else do
      let blinded ← privateResponderSecretKey initiatorSecret theirs
      pure (theirs, blinded) : Except Error (DevicePubkey K × K)) =
        .ok (⟨Primitives.publicKey responderSecret⟩, initiatorSecret) := by
    rw [if_pos rfl, hblinded]
    rfl
  rw [RandM.bind_lift_of_ok hpair] at h
  obtain ⟨ours, _, hours, hrest1⟩ := RandM.bind_eq_ok.mp h
  obtain ⟨hoursOk, rfl⟩ := RandM.lift_eq_ok.mp hours
  obtain rfl := secretKeyFromBytes_eq_ok hlaws hoursOk
  obtain ⟨first, mid, hfirst, hrest2⟩ := RandM.bind_eq_ok.mp hrest1
  cases hfirst
  obtain ⟨firstSecret, _, hsecret, hrest3⟩ := RandM.bind_eq_ok.mp hrest2
  obtain ⟨hsecretOk, rfl⟩ := RandM.lift_eq_ok.mp hsecret
  obtain rfl := secretKeyFromBytes_eq_ok hlaws hsecretOk
  simp only [if_true] at hrest3
  obtain ⟨peer, _, hpeer, hrest4⟩ := RandM.bind_eq_ok.mp hrest3
  obtain ⟨hpeerOk, rfl⟩ := RandM.lift_eq_ok.mp hpeer
  obtain rfl : Primitives.publicKey responderSecret = peer := Except.ok.inj
    ((hlaws.publicKey_valid hvalid).symm.trans (mapError_eq_ok.mp hpeerOk))
  obtain ⟨key, _, hkey, hrest5⟩ := RandM.bind_eq_ok.mp hrest4
  obtain ⟨hkeyOk, rfl⟩ := RandM.lift_eq_ok.mp hkey
  cases hrest5
  have hagreed := conversationKey_agreed hlaws (mapError_eq_ok.mp hsecretOk) hvalid
  obtain rfl : _ = key :=
    Except.ok.inj (hagreed.symm.trans (mapError_eq_ok.mp hkeyOk))
  exact ⟨rfl, ⟨rfl, rfl, rfl, rfl, rfl, rfl, rfl, rfl, rfl, rfl, rfl, rfl⟩, rfl⟩

theorem newResponder_eq_ok (hlaws : SymbolicLaws K) {initiatorSecret inviteSecret shared : K}
    {rng rng' : Rng K} {session : Session K} (first : K)
    (h : Session.newResponder ⟨Primitives.publicKey initiatorSecret⟩ inviteSecret shared rng =
      (.ok session, rng')) :
    ∃ responderSecret, privateResponderSecretKey inviteSecret
        ⟨Primitives.publicKey initiatorSecret⟩ = .ok responderSecret ∧
      ValidSecret responderSecret ∧
      rng' = { rng with secretKeys := rng.secretKeys.tail } ∧
      AtPhase (startSecrets initiatorSecret responderSecret first) shared
        ⟨0, 0, 0, 0⟩ session.state ∧ session.state.skippedKeys = SortedMap.empty ∧
      session.state.ourNextNostrKey.publicKey = ⟨Primitives.publicKey responderSecret⟩ := by
  rw [Session.newResponder, Session.initWithContext] at h
  obtain ⟨⟨theirs, ours⟩, _, hpair, hrest1⟩ := RandM.bind_eq_ok.mp h
  obtain ⟨hpairOk, rfl⟩ := RandM.lift_eq_ok.mp hpair
  rw [if_neg Bool.false_ne_true, except_bind_eq_ok] at hpairOk
  obtain ⟨responderSecret, hblinded, hpairEq⟩ := hpairOk
  cases hpairEq
  obtain ⟨secret, _, hsecret, hrest2⟩ := RandM.bind_eq_ok.mp hrest1
  obtain ⟨hsecretOk, rfl⟩ := RandM.lift_eq_ok.mp hsecret
  obtain rfl := secretKeyFromBytes_eq_ok hlaws hsecretOk
  obtain ⟨unused, mid, hunused, hrest3⟩ := RandM.bind_eq_ok.mp hrest2
  cases hunused
  obtain ⟨unusedSecret, _, hunusedSecret, hrest4⟩ := RandM.bind_eq_ok.mp hrest3
  obtain ⟨-, rfl⟩ := RandM.lift_eq_ok.mp hunusedSecret
  cases hrest4
  exact ⟨_, hblinded, mapError_eq_ok.mp hsecretOk, rfl,
    ⟨rfl, rfl, rfl, rfl, rfl, rfl, rfl, rfl, rfl, rfl, rfl, rfl⟩, rfl, rfl⟩

/-- The keys the parties start from and those they will draw are pairwise
distinct. -/
structure FreshStart (initiatorSecret : K) (rng : Rng K) (start : Exchange K T) : Prop where
  responder : (start.sessions .responder).state.ourNextNostrKey.publicKey ≠
    ⟨Primitives.publicKey initiatorSecret⟩
  draws : FreshDraws rng.secretKeys (fun key =>
    key = ⟨Primitives.publicKey initiatorSecret⟩ ∨
      key = (start.sessions .responder).state.ourNextNostrKey.publicKey)

omit [LinearOrder K] in
theorem distinct_startSecrets {initiatorSecret responderSecret : K}
    {secretKeys : Stream' K} (hinitiator : ValidSecret initiatorSecret)
    (hresponder : ValidSecret responderSecret)
    (hne : (⟨Primitives.publicKey responderSecret⟩ : DevicePubkey K) ≠
      ⟨Primitives.publicKey initiatorSecret⟩)
    (hfresh : FreshDraws secretKeys (fun key =>
      key = ⟨Primitives.publicKey initiatorSecret⟩ ∨
        key = ⟨Primitives.publicKey responderSecret⟩)) :
    Distinct (startSecrets initiatorSecret responderSecret secretKeys.head) 3 := by
  have hfirst : ∀ i < 2,
      pubkey (startSecrets initiatorSecret responderSecret secretKeys.head) i ≠
        pubkey (startSecrets initiatorSecret responderSecret secretKeys.head) 2 := by
    intro i hi heq
    match i with
    | 0 => exact hfresh.unused 0 (Or.inl heq.symm)
    | 1 => exact hfresh.unused 0 (Or.inr heq.symm)
  refine ⟨?_, ?_⟩
  · intro i hi
    match i with
    | 0 => exact hinitiator
    | 1 => exact hresponder
    | 2 => exact hfresh.valid 0
  · intro i j hi hj heq
    match i, j with
    | 0, 0 => rfl
    | 0, 1 => exact absurd heq.symm hne
    | 0, 2 => exact absurd heq (hfirst 0 (by omega))
    | 1, 0 => exact absurd heq hne
    | 1, 1 => rfl
    | 1, 2 => exact absurd heq (hfirst 1 (by omega))
    | 2, 0 => exact absurd heq.symm (hfirst 0 (by omega))
    | 2, 1 => exact absurd heq.symm (hfirst 1 (by omega))
    | 2, 2 => rfl

theorem Started.consistent (hlaws : SymbolicLaws K)
    {inviteSecret initiatorSecret shared : K} {rng : Rng K} {start : Exchange K T}
    (hstart : Started inviteSecret initiatorSecret shared rng start)
    (hfresh : FreshStart initiatorSecret rng start) :
    ∃ secrets, Consistent secrets shared startPosition start := by
  obtain ⟨initiator, responder, mid, hinitiator, hresponder, hsessionI, hsessionR, hsent,
    haccepted, hchains⟩ := hstart
  obtain ⟨responderSecret, hsecret, hvalid, hrngR, hatR, hemptyR, hpublic⟩ :=
    newResponder_eq_ok hlaws rng.secretKeys.head hresponder
  have hblinded : ∃ blinded, privateResponderPublicKey initiatorSecret
      ⟨Primitives.publicKey inviteSecret⟩ = .ok blinded := by
    rw [Session.newInitiator, Session.initWithContext] at hinitiator
    obtain ⟨pair, _, hpair, -⟩ := RandM.bind_eq_ok.mp hinitiator
    obtain ⟨hpairOk, -⟩ := RandM.lift_eq_ok.mp hpair
    rw [if_pos rfl, except_bind_eq_ok] at hpairOk
    obtain ⟨blinded, hblinded, -⟩ := hpairOk
    exact ⟨blinded, hblinded⟩
  obtain ⟨blinded, hblinded⟩ := hblinded
  obtain ⟨hinitiatorValid, rfl⟩ := responder_agree hlaws hblinded hsecret
  obtain ⟨hrngI, hatI, hemptyI⟩ := newInitiator_eq_ok hlaws hblinded hvalid hinitiator
  have hne := hfresh.responder
  have hdraws := hfresh.draws
  rw [hsessionR, hpublic] at hne hdraws
  have hdist := distinct_startSecrets hinitiatorValid hvalid hne hdraws
  have hrng : start.rng.secretKeys = rng.secretKeys.tail.tail := by
    rw [hrngR, hrngI]
  refine ⟨startSecrets initiatorSecret responderSecret rng.secretKeys.head, ?_⟩
  have hnoSent : ∀ sender, start.sentOn sender = 0 := by
    intro sender
    rw [sentOn, hsent]
    rfl
  have hphase : ∀ party c, ¬ c + 2 = (startPosition party).phase := by
    intro party c
    cases party with
    | initiator => simp [startPosition, positions]
    | responder => simp [startPosition, positions]
  have hempty : ∀ party, (start.sessions party).state.skippedKeys = SortedMap.empty := by
    intro party
    cases party with
    | initiator => rw [hsessionI, hemptyI]
    | responder => rw [hsessionR, hemptyR]
  refine ⟨rfl, rfl, ?_, hdist, ⟨?_, ?_, ?_⟩, ?_, ?_, ?_, ?_, ?_, ?_, ?_, ?_, ?_, ?_, ?_, ?_⟩
  · intro party
    cases party with
    | initiator => exact le_rfl
    | responder => exact Nat.zero_le _
  · intro i
    rw [hrng]
    exact hdraws.valid (i + 2)
  · intro i j heq
    rw [hrng] at heq
    exact Nat.add_right_cancel (hdraws.inj (i + 2) (j + 2) heq)
  · rintro i ⟨j, hj, heq⟩
    rw [hrng] at heq
    change j < 3 at hj
    match j with
    | 0 => exact hdraws.unused (i + 2) (Or.inl heq)
    | 1 => exact hdraws.unused (i + 2) (Or.inr heq)
    | 2 =>
        have := hdraws.inj (i + 2) 0 (DevicePubkey.mk.inj heq)
        omega
  · intro party
    cases party with
    | initiator =>
        rw [hsessionI]
        exact hatI
    | responder =>
        rw [hsessionR]
        exact hatR
  · intro m hm
    rw [hsent] at hm
    cases hm
  · rw [hsent]
    exact List.Pairwise.nil
  · intro party
    cases party with
    | initiator => exact (hnoSent _).symm
    | responder => rfl
  · intro party
    cases party with
    | initiator => rfl
    | responder => rfl
  · exact fun party c hc => absurd hc (hphase party c)
  · exact fun party c hc => absurd hc (hphase party c)
  · intro a ha
    rw [haccepted] at ha
    cases ha
  · intro a ha
    rw [haccepted] at ha
    cases ha
  · rw [haccepted]
    exact List.Pairwise.nil
  · intro party
    rw [hchains]
    cases party with
    | initiator => rfl
    | responder => rfl
  · intro party
    refine ⟨?_, ?_⟩
    · intro sender hcontains
      rw [hempty] at hcontains
      cases hcontains
    · intro c number key _ _ hget
      rw [SessionState.skippedFrom, hempty] at hget
      cases hget

/-! Runs. -/

theorem planReceive_draws (session : Session K) (envelope : MessageEnvelope K T) :
    RandM.Draws (session.planReceive envelope) := by
  have hstep : ∀ state : SessionState K, RandM.Draws (ratchetStep state) := by
    intro state
    refine (RandM.draws_lift _).bind fun _ => ?_
    split
    · exact RandM.draws_throw _
    · refine (RandM.draws_lift _).bind fun _ => (RandM.draws_lift _).bind fun _ => ?_
      refine RandM.draws_randomSecretKeyBytes.bind fun _ => (RandM.draws_lift _).bind fun _ => ?_
      exact (RandM.draws_lift _).bind fun _ => (RandM.draws_lift _).bind fun _ =>
        RandM.draws_pure _
  rw [Session.planReceive]
  split
  · exact RandM.draws_throw _
  · refine (RandM.draws_lift _).bind fun result => ?_
    obtain ⟨header, target⟩ := result
    refine RandM.Draws.bind ?_ fun _ => (RandM.draws_lift _).bind fun _ => RandM.draws_pure _
    split
    · exact (RandM.draws_lift _).bind fun _ => hstep _
    · exact RandM.draws_pure _

theorem Consistent.withRng (h : Consistent secrets shared pos x) {rng : Rng K} {k : Nat}
    (hrng : rng.secretKeys = x.rng.secretKeys.drop k) :
    Consistent secrets shared pos { x with rng := rng } := by
  refine { h with fresh := ?_ }
  simp only [hrng]
  refine ⟨fun i => h.fresh.valid _, ?_, fun i => h.fresh.unused _⟩
  intro i j heq
  exact Nat.add_right_cancel (h.fresh.inj (i + k) (j + k) heq)

/-- Every event keeps the invariant. -/
theorem Consistent.step (hlaws : SymbolicLaws K) (h : Consistent secrets shared pos x)
    (event : ExchangeEvent K T) :
    ∃ secrets' pos', Consistent secrets' shared pos' (x.step event) ∧
      ∀ i < drawnCount pos, secrets i = secrets' i := by
  cases event with
  | send party bodyNonce headerNonce payload now =>
      rw [Exchange.step]
      cases hplan : (x.sessions party).planSend bodyNonce headerNonce payload now with
      | ok plan => exact ⟨secrets, _, h.recordSend hlaws hplan, fun _ _ => rfl⟩
      | error e => exact ⟨secrets, pos, h, fun _ _ => rfl⟩
  | deliver party index =>
      rw [Exchange.step]
      cases hget : x.sent[index]? with
      | none => exact ⟨secrets, pos, h, fun _ _ => rfl⟩
      | some m =>
          have hm : m ∈ x.sent := List.mem_of_getElem? hget
          simp only
          rcases hplan : (x.sessions party).planReceive m.envelope x.rng with ⟨_ | plan, rng⟩
          · obtain ⟨k, hk⟩ := planReceive_draws (x.sessions party) m.envelope x.rng
            rw [hplan] at hk
            exact ⟨secrets, pos, h.withRng (congrArg Rng.secretKeys hk), fun _ _ => rfl⟩
          · obtain ⟨secrets', pos', h', -, hagree⟩ := h.recordReceive hlaws hm hplan
            exact ⟨secrets', pos', h', hagree⟩

theorem Consistent.run (hlaws : SymbolicLaws K) (h : Consistent secrets shared pos x)
    (events : List (ExchangeEvent K T)) :
    ∃ secrets' pos', Consistent secrets' shared pos' (x.run events) := by
  induction events generalizing x secrets pos with
  | nil => exact ⟨secrets, pos, h⟩
  | cons event rest ih =>
      obtain ⟨secrets', pos', h', -⟩ := h.step hlaws event
      exact ih h'

end Exchange

end NostrDoubleRatchet
