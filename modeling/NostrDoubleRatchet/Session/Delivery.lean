import Mathlib.Order.Interval.Finset.Nat
import NostrDoubleRatchet.Session.Exchange

/-!
Which messages of an exchange are accepted. While at most `MAX_SKIP` messages of a
chain are missing nothing is pruned, so every missing message below the position
the receiver has come to has its key retained. Whether the message is then accepted
depends on its header: it opens for the current receiving chain, for the chain
before it and for the next one.
-/

namespace NostrDoubleRatchet

open KeySchedule

namespace Exchange

variable {K T : Type} [LinearOrder K] [Primitives K T]
  {secrets secrets' : Nat → K} {shared : K} {pos pos' : Party → Position} {x : Exchange K T}

/-- A party holds the key of every missing position of chain `c`. -/
def Keeps (secrets : Nat → K) (shared : K) (pos : Position) (x : Exchange K T) (party : Party)
    (c : Nat) : Prop :=
  RetainsAll secrets shared c (x.reach secrets pos c) (x.acceptedAt (pubkey secrets c))
    (x.sessions party).state

omit [Primitives K T] in
theorem mem_missing {sender : DevicePubkey K} {top p : Nat} :
    p ∈ x.missing sender top ↔ p < top ∧ ¬ x.acceptedAt sender p := by
  rw [missing, Finset.mem_filter, Finset.mem_range]

omit [Primitives K T] in
theorem acceptedAt_lt_reached {sender : DevicePubkey K} {p : Nat}
    (h : x.acceptedAt sender p) : p < x.reached sender := by
  obtain ⟨a, ha, hsender, rfl⟩ := h
  rw [reached]
  generalize x.accepted = log at ha ⊢
  induction log with
  | nil => cases ha
  | cons b rest ih =>
      rw [List.foldr_cons]
      rcases List.mem_cons.mp ha with rfl | ha
      · rw [if_pos hsender]
        exact lt_of_lt_of_le (Nat.lt_succ_self _) (le_max_left _ _)
      · split
        · exact lt_of_lt_of_le (ih ha) (le_max_right _ _)
        · exact ih ha

omit [Primitives K T] in
theorem reached_le {sender : DevicePubkey K} {top : Nat}
    (h : ∀ p, x.acceptedAt sender p → p < top) : x.reached sender ≤ top := by
  have hall : ∀ a ∈ x.accepted, a.sender = sender → a.position + 1 ≤ top :=
    fun a ha hsender => h a.position ⟨a, ha, hsender, rfl⟩
  rw [reached]
  generalize x.accepted = log at hall ⊢
  induction log with
  | nil => exact Nat.zero_le _
  | cons b rest ih =>
      rw [List.foldr_cons]
      have hrest := ih (fun a ha => hall a (List.mem_cons_of_mem _ ha))
      split
      · rename_i hsender
        exact max_le (hall b List.mem_cons_self hsender) hrest
      · exact hrest

/-- The highest accepted position is the one before the receiving chain's next. -/
theorem Consistent.reached_eq (h : Consistent secrets shared pos x) {party : Party} {c : Nat}
    (hc : c + 2 = (pos party).phase) :
    x.reached (pubkey secrets c) = (pos party).received := by
  apply le_antisymm
  · apply reached_le
    intro p hacc
    have hlt := h.acceptedAt_lt hc.le (by omega) hacc
    rwa [reach, if_pos hc] at hlt
  · obtain ⟨a, ha, hsender, htop⟩ := h.receivedTop party c hc
    rw [← htop]
    exact acceptedAt_lt_reached ⟨a, ha, hsender, rfl⟩

/-- The index of a sender key a party has accepted from. -/
theorem Consistent.mem_tail_chains (h : Consistent secrets shared pos x) {party : Party}
    {c : Nat} (hc : c + 2 ≤ (pos party).phase) (hparity : c % 2 = (pos party).phase % 2) :
    pubkey secrets c ∈ (x.chains party).tail ↔ c + 2 ≠ (pos party).phase := by
  have hlt := phase_lt_drawnCount pos party
  obtain ⟨d, hd⟩ : ∃ d, (pos party).phase = d + 2 := ⟨(pos party).phase - 2, by omega⟩
  rw [h.chains, hd, receivedChains, List.tail_cons]
  constructor
  · intro hmem heq
    obtain ⟨e, he, -, hsender⟩ := of_mem_receivedChains hmem
    have := h.distinct.inj c e (by omega) (by omega) hsender
    omega
  · intro hne
    exact mem_receivedChains (by omega) (by omega)

theorem Consistent.frontier_eq (h : Consistent secrets shared pos x) {party : Party} {c : Nat}
    (hc : c + 2 ≤ (pos party).phase) (hparity : c % 2 = (pos party).phase % 2) :
    x.frontier party (pubkey secrets c) = x.reach secrets (pos party) c := by
  rw [frontier, reach]
  by_cases hcurrent : c + 2 = (pos party).phase
  · rw [if_neg (fun hmem => (h.mem_tail_chains hc hparity).mp hmem hcurrent),
      if_pos hcurrent, h.reached_eq hcurrent]
  · rw [if_pos ((h.mem_tail_chains hc hparity).mpr hcurrent), if_neg hcurrent]

/-! One step keeps the keys of the missing positions. -/

theorem skippedFrom_forward_ne (state : SessionState K) (chain : K) (number : Nat)
    {sender other : DevicePubkey K} (hne : sender ≠ other) :
    (state.forward chain number sender).skippedFrom other = state.skippedFrom other := by
  have hnot : ¬ (sender = other ∧ state.receivingChainMessageNumber < number) :=
    fun h => hne h.1
  have hskip := skippedFrom_skipTo state chain number sender other
  rw [if_neg hnot] at hskip
  exact hskip

theorem Consistent.keeps_recordSend (hlaws : SymbolicLaws K)
    (h : Consistent secrets shared pos x) {sending : Party} {bodyNonce headerNonce : K}
    {payload : T} {now : UnixSeconds} {plan : SendPlan K T}
    (hplan : (x.sessions sending).planSend bodyNonce headerNonce payload now = .ok plan)
    {party : Party} {c : Nat} (hc : c + 2 ≤ (pos party).phase)
    (hparity : c % 2 = (pos party).phase % 2) (hkeeps : x.Keeps secrets shared (pos party) party c) :
    (x.recordSend sending plan).Keeps secrets shared
      (Function.update pos sending { pos sending with sent := (pos sending).sent + 1 } party)
      party c := by
  obtain ⟨e, he, henv, -, hskipped, -⟩ := planSend_eq_ok hlaws h.distinct
    (h.atPhase sending) (phase_lt_drawnCount pos sending) hplan
  have hlt := phase_lt_drawnCount pos
  have hreach : (x.recordSend sending plan).reach secrets
      (Function.update pos sending { pos sending with sent := (pos sending).sent + 1 } party) c =
        x.reach secrets (pos party) c := by
    have hkeep : ∀ next : Position, next = Function.update pos sending
        { pos sending with sent := (pos sending).sent + 1 } party →
          next.phase = (pos party).phase ∧ next.received = (pos party).received := by
      rintro next rfl
      by_cases hp : party = sending
      · subst hp
        rw [Function.update_self]
        exact ⟨rfl, rfl⟩
      · rw [Function.update_of_ne hp]
        exact ⟨rfl, rfl⟩
    obtain ⟨hphase, hreceived⟩ := hkeep _ rfl
    rw [reach, reach, hphase, hreceived, sentOn_recordSend]
    split
    · rfl
    · rename_i hne
      rw [if_neg, Nat.add_zero]
      intro hsender
      have heq := h.distinct.inj e c (by have := hlt sending; omega)
        (by have := hlt party; omega) (henv.sender.symm.trans hsender)
      have hadjacent := h.adjacent party
      rcases eq_or_other sending party with rfl | rfl
      · omega
      · have hback : sending.other.other = sending := by
          cases sending <;> rfl
        rw [hback] at hadjacent
        omega
  have hstate : ((x.recordSend sending plan).sessions party).state.skippedKeys =
      (x.sessions party).state.skippedKeys := by
    by_cases hp : party = sending
    · subst hp
      rw [Exchange.recordSend]
      simp only [Function.update_self]
      exact hskipped
    · rw [Exchange.recordSend]
      simp only [Function.update_of_ne hp]
  refine RetainsAll.mono hkeeps hreach.le (fun _ _ hacc => hacc) ?_
  rw [SessionState.skippedFrom, hstate]
  rfl

omit [Primitives K T] in
private theorem sentOn_recordReceive (x : Exchange K T) (party : Party) (m : SentMessage K T)
    (plan : ReceivePlan K T) (rng : Rng K) (sender : DevicePubkey K) :
    (x.recordReceive party m plan rng).sentOn sender = x.sentOn sender := rfl

omit [Primitives K T] in
/-- A set of positions missing before, other than the one accepted now, is missing
afterwards. -/
private theorem card_le_missing {party : Party} {m : SentMessage K T} {plan : ReceivePlan K T}
    {rng : Rng K} {sender : DevicePubkey K} {top bound : Nat}
    (hmissing : ((x.recordReceive party m plan rng).missing sender top).card ≤ MAX_SKIP)
    (htop : bound ≤ top) (hnew : plan.sender = sender → bound ≤ m.position) (s : Finset Nat)
    (hs : ∀ p ∈ s, p < bound ∧ ¬ x.acceptedAt sender p) : s.card ≤ MAX_SKIP := by
  refine (Finset.card_le_card ?_).trans hmissing
  intro p hp
  obtain ⟨hlt, hnot⟩ := hs p hp
  rw [mem_missing, acceptedAt_recordReceive]
  refine ⟨by omega, ?_⟩
  rintro (⟨hsender, rfl⟩ | hacc)
  · have := hnew hsender
    omega
  · exact hnot hacc

/-- The keys a party holds once a ratchet step retired its receiving chain. -/
private theorem Consistent.keeps_retired (h : Consistent secrets shared pos x) {party : Party}
    {c d : Nat} {mid : SessionState K} (hphase : c = (pos party).phase)
    (hkeys : mid.skippedKeys = retiredKeys secrets shared (pos party)
      (x.lengthAt secrets (back c 2)) (x.sessions party).state)
    (hd : d + 2 ≤ c) (hparity : d % 2 = c % 2) (hcount : x.sentOn (pubkey secrets d) < 2 ^ 32)
    (hmissing : ∀ s : Finset Nat, (∀ p ∈ s, p < x.sentOn (pubkey secrets d) ∧
      ¬ x.acceptedAt (pubkey secrets d) p) → s.card ≤ MAX_SKIP)
    (hkeeps : x.Keeps secrets shared (pos party) party d) :
    RetainsAll secrets shared d (x.sentOn (pubkey secrets d))
      (x.acceptedAt (pubkey secrets d)) mid := by
  have hlt := phase_lt_drawnCount pos party
  obtain ⟨e, rfl⟩ : ∃ e, c = e + 2 := ⟨c - 2, by omega⟩
  rw [retiredKeys, ← hphase, back_eq_some.mpr rfl] at hkeys
  have hfrom : ∀ sender, mid.skippedFrom sender = ((x.sessions party).state.skipTo
      (chainKey secrets shared e (pos party).received)
      (x.sentOn (pubkey secrets e) % 2 ^ 32) (pubkey secrets e)).skippedFrom sender := by
    intro sender
    rw [SessionState.skippedFrom, hkeys]
    rfl
  by_cases hde : d = e
  · subst hde
    have hreach : x.reach secrets (pos party) d = (pos party).received := if_pos hphase
    rw [Keeps, hreach] at hkeeps
    rw [Nat.mod_eq_of_lt hcount] at hfrom
    refine (RetainsAll.skipTo (h.retained party) hphase hkeeps
      (h.atPhase party).receivingNumber hreach ?_ (h.receivedCount party d hphase) hcount
      hmissing).mono le_rfl (fun _ _ hacc => hacc) (hfrom _)
    intro p hacc
    rw [← hreach]
    exact h.acceptedAt_lt (by omega) (by omega) hacc
  · have hreach : x.reach secrets (pos party) d = x.sentOn (pubkey secrets d) :=
      if_neg (by omega)
    rw [Keeps, hreach] at hkeeps
    refine hkeeps.mono le_rfl (fun _ _ hacc => hacc) ?_
    rw [hfrom, skippedFrom_skipTo, if_neg]
    rintro ⟨heq, -⟩
    exact hde (h.distinct.inj e d (by omega) (by omega) heq).symm

/-- The keys a party holds for its receiving chains after it accepted a message. -/
private theorem Reception.keeps_self {party : Party} {m : SentMessage K T}
    {plan : ReceivePlan K T} {rng : Rng K} (h : Consistent secrets shared pos x)
    (hreception : Reception secrets shared pos x party m plan secrets' pos') {d : Nat}
    (hd : d + 2 ≤ (pos' party).phase) (hparity : d % 2 = (pos' party).phase % 2)
    (hcount : x.sentOn (pubkey secrets' d) < 2 ^ 32)
    (hmissing : ((x.recordReceive party m plan rng).missing (pubkey secrets' d)
      (x.reach secrets' (pos' party) d)).card ≤ MAX_SKIP)
    (hkeeps : d + 2 ≤ (pos party).phase → x.Keeps secrets shared (pos party) party d) :
    RetainsAll secrets' shared d (x.reach secrets' (pos' party) d)
      ((x.recordReceive party m plan rng).acceptedAt (pubkey secrets' d)) plan.nextState := by
  have hlt := phase_lt_drawnCount pos party
  have hacc : ∀ p, x.acceptedAt (pubkey secrets' d) p →
      (x.recordReceive party m plan rng).acceptedAt (pubkey secrets' d) p :=
    fun p hp => (acceptedAt_recordReceive ..).mpr (Or.inr hp)
  cases hreception with
  | retained c hphase hcparity hsender hreach hnext =>
      rw [hnext]
      by_cases hdc : d = c
      · subst hdc
        have hposition : m.position < 2 ^ 32 := by
          rw [reach] at hreach
          split at hreach
          · rename_i heq
            have := h.receivedCount party d heq
            omega
          · omega
        refine (RetainsAll.consume (hkeeps hd) hposition).mono le_rfl ?_ rfl
        rintro p _ (hp | rfl)
        · exact hacc p hp
        · exact (acceptedAt_recordReceive ..).mpr (Or.inl ⟨hsender, rfl⟩)
      · refine RetainsAll.mono (hkeeps hd) le_rfl (fun p _ hp => hacc p hp) ?_
        rw [skippedFrom_consume, if_neg]
        intro heq
        exact hdc (h.distinct.inj c d (by omega) (by omega) heq).symm
  | later c hphase hsender hposition hskip hnext =>
      rw [Function.update_self] at hd hparity hmissing ⊢
      simp only at hd hparity
      rw [hnext]
      by_cases hdc : d = c
      · subst hdc
        have hreach : x.reach secrets { pos party with received := m.position + 1 } d =
            m.position + 1 := if_pos hphase
        have hreachOld : x.reach secrets (pos party) d = (pos party).received := if_pos hphase
        rw [hreach] at hmissing ⊢
        have hold := hkeeps hd
        rw [Keeps, hreachOld] at hold
        refine (RetainsAll.forward (h.retained party) hphase hold
          (h.atPhase party).receivingNumber hreachOld ?_ (by omega) (by omega)
          (card_le_missing hmissing (Nat.le_succ _) (fun _ => le_rfl))).mono le_rfl ?_ rfl
        · intro y hy
          rw [← hreachOld]
          exact h.acceptedAt_lt hd hparity hy
        · rintro p _ (hp | rfl)
          · exact hacc p hp
          · exact (acceptedAt_recordReceive ..).mpr (Or.inl ⟨hsender, rfl⟩)
      · have hreach : x.reach secrets { pos party with received := m.position + 1 } d =
            x.reach secrets (pos party) d := by
          have hne : d + 2 ≠ (pos party).phase := by omega
          rw [reach, reach, if_neg hne, if_neg hne]
        rw [hreach]
        refine RetainsAll.mono (hkeeps hd) le_rfl (fun p _ hp => hacc p hp) ?_
        apply skippedFrom_forward_ne
        intro heq
        exact hdc (h.distinct.inj c d (by omega) (by omega) heq).symm
  | ratchet c mid hphase hsender hposition hmid hkeys hnext =>
      rw [Function.update_self] at hd hparity hmissing ⊢
      have hagree : ∀ i < c + 3, secrets i = draw secrets (c + 3) x.rng.secretKeys.head i :=
        fun i hi => draw_of_lt secrets x.rng.secretKeys.head hi
      have hpub : ∀ {i}, i < c + 3 → pubkey secrets i =
          pubkey (draw secrets (c + 3) x.rng.secretKeys.head) i :=
        fun hi => pubkey_congr hagree hi
      have hretired := h.retained_retired party hphase hkeys
      simp only at hd hparity
      rw [hnext]
      by_cases hdc : d = c
      · subst hdc
        have hreach : x.reach (draw secrets (d + 3) x.rng.secretKeys.head)
            ⟨d + 2, 0, (pos party).sent, m.position + 1⟩ d = m.position + 1 := if_pos rfl
        rw [hreach] at hmissing ⊢
        have hnone : ∀ y, ¬ x.acceptedAt
            (pubkey (draw secrets (d + 3) x.rng.secretKeys.head) d) y := by
          intro y
          rw [← hpub (by omega)]
          exact h.not_acceptedAt_next party hphase y
        rw [hpub (by omega : d < d + 3)] at hposition hsender ⊢
        have hstart := hretired.congr hagree (by omega : d + 2 < d + 3) (fun _ _ => rfl)
          (fun e he => congrArg x.acceptedAt (hpub he))
        refine (RetainsAll.forward hstart rfl (fun y hy => absurd hy (Nat.not_lt_zero y))
          hmid.receivingNumber (if_pos rfl) (fun y hy => absurd hy (hnone y)) (Nat.zero_le _)
          (by omega) (card_le_missing hmissing (Nat.le_succ _) (fun _ => le_rfl))).mono le_rfl
          ?_ rfl
        rintro p _ (hp | rfl)
        · exact hacc p hp
        · exact (acceptedAt_recordReceive ..).mpr (Or.inl ⟨hsender, rfl⟩)
      · have hreach : x.reach (draw secrets (c + 3) x.rng.secretKeys.head)
            ⟨c + 2, 0, (pos party).sent, m.position + 1⟩ d = x.sentOn (pubkey secrets d) := by
          rw [hpub (by omega : d < c + 3)]
          exact if_neg (fun heq => hdc (Nat.add_right_cancel heq))
        rw [hreach] at hmissing ⊢
        rw [← hpub (by omega : d < c + 3)] at hmissing hcount ⊢
        have hne : plan.sender ≠ pubkey secrets d := by
          intro heq
          exact hdc (h.distinct.inj c d (by omega) (by omega) (hsender.symm.trans heq)).symm
        have hold := h.keeps_retired hphase hkeys (by omega) (by omega) hcount
          (card_le_missing hmissing le_rfl (fun heq => absurd heq hne)) (hkeeps (by omega))
        refine (hold.mono le_rfl ?_ ?_).congr hagree (by omega)
        · intro p _ hp
          exact (acceptedAt_recordReceive ..).mpr (Or.inr hp)
        · exact skippedFrom_forward_ne _ _ _ (hsender ▸ hne)

/-- A party that accepts nothing keeps what it holds. -/
private theorem Reception.keeps_other {receiver party : Party} {m : SentMessage K T}
    {plan : ReceivePlan K T} {rng : Rng K}
    (hreception : Reception secrets shared pos x receiver m plan secrets' pos')
    (hagree : ∀ i < drawnCount pos, secrets i = secrets' i) (hne : party ≠ receiver) {d : Nat}
    (hd : d + 2 ≤ (pos' party).phase)
    (hkeeps : d + 2 ≤ (pos party).phase → x.Keeps secrets shared (pos party) party d) :
    (x.recordReceive receiver m plan rng).Keeps secrets' shared (pos' party) party d := by
  have hlt := phase_lt_drawnCount pos party
  have hpos : pos' party = pos party := by
    cases hreception with
    | retained => rfl
    | later => exact Function.update_of_ne hne _ _
    | ratchet => exact Function.update_of_ne hne _ _
  rw [hpos] at hd ⊢
  have hreach : (x.recordReceive receiver m plan rng).reach secrets' (pos party) d =
      x.reach secrets (pos party) d := (reach_congr hagree x (pos party) (by omega)).symm
  refine RetainsAll.congr ?_ hagree (by omega)
  refine RetainsAll.mono (hkeeps hd) hreach.le ?_ ?_
  · intro p _ hp
    rw [← pubkey_congr hagree (by omega)]
    exact (acceptedAt_recordReceive ..).mpr (Or.inr hp)
  · rw [recordReceive]
    simp only [Function.update_of_ne hne]

/-- An event keeps what the parties hold of a chain, as long as at most `MAX_SKIP` of
its messages are missing afterwards. -/
private theorem Consistent.keeps_step (hlaws : SymbolicLaws K)
    (h : Consistent secrets shared pos x) (event : ExchangeEvent K T) :
    ∃ secrets' pos', Consistent secrets' shared pos' (x.step event) ∧
      (∀ party c, c + 2 ≤ (pos' party).phase → c % 2 = (pos' party).phase % 2 →
        (x.step event).sentOn (pubkey secrets' c) < 2 ^ 32 →
        ((x.step event).missing (pubkey secrets' c)
          ((x.step event).reach secrets' (pos' party) c)).card ≤ MAX_SKIP →
        (c + 2 ≤ (pos party).phase → x.Keeps secrets shared (pos party) party c) →
        (x.step event).Keeps secrets' shared (pos' party) party c) ∧
      ∀ i < drawnCount pos, secrets i = secrets' i := by
  cases event with
  | send sending bodyNonce headerNonce payload now =>
      rw [Exchange.step]
      cases hplan : (x.sessions sending).planSend bodyNonce headerNonce payload now with
      | ok plan =>
          refine ⟨secrets, _, h.recordSend hlaws hplan, ?_, fun _ _ => rfl⟩
          intro party c hc hparity _ _ hkeeps
          have hphase : (Function.update pos sending
              { pos sending with sent := (pos sending).sent + 1 } party).phase =
                (pos party).phase := by
            by_cases hp : party = sending
            · subst hp
              rw [Function.update_self]
            · rw [Function.update_of_ne hp]
          rw [hphase] at hc hparity
          exact h.keeps_recordSend hlaws hplan hc hparity (hkeeps hc)
      | error e =>
          exact ⟨secrets, pos, h, fun _ _ hc _ _ _ hkeeps => hkeeps hc, fun _ _ => rfl⟩
  | deliver receiver index =>
      rw [Exchange.step]
      cases hget : x.sent[index]? with
      | none => exact ⟨secrets, pos, h, fun _ _ hc _ _ _ hkeeps => hkeeps hc, fun _ _ => rfl⟩
      | some m =>
          have hm : m ∈ x.sent := List.mem_of_getElem? hget
          simp only
          rcases hplan : (x.sessions receiver).planReceive m.envelope x.rng with ⟨_ | plan, rng⟩
          · obtain ⟨k, hk⟩ := planReceive_draws (x.sessions receiver) m.envelope x.rng
            rw [hplan] at hk
            exact ⟨secrets, pos, h.withRng (congrArg Rng.secretKeys hk),
              fun _ _ hc _ _ _ hkeeps => hkeeps hc, fun _ _ => rfl⟩
          · obtain ⟨secrets', pos', h', hreception, hagree⟩ := h.recordReceive hlaws hm hplan
            refine ⟨secrets', pos', h', ?_, hagree⟩
            intro party c hc hparity hcount hmissing hkeeps
            by_cases hp : party = receiver
            · subst hp
              have hself := Reception.keeps_self h hreception hc hparity hcount hmissing hkeeps
              have hstate : ((x.recordReceive party m plan rng).sessions party).state =
                  plan.nextState := by
                simp only [Exchange.recordReceive, Function.update_self]
                rfl
              rw [Keeps, hstate]
              exact hself
            · exact Reception.keeps_other hreception hagree hp hc hkeeps

omit [Primitives K T] in
private theorem sentOn_step_le [Primitives K T] (x : Exchange K T) (event : ExchangeEvent K T)
    (sender : DevicePubkey K) : x.sentOn sender ≤ (x.step event).sentOn sender := by
  cases event with
  | send party bodyNonce headerNonce payload now =>
      rw [step]
      split
      · rw [sentOn_recordSend]
        exact Nat.le_add_right _ _
      · exact le_rfl
  | deliver party index =>
      rw [step]
      split
      · exact le_rfl
      · split
        · exact le_rfl
        · exact le_rfl

omit [Primitives K T] in
private theorem run_append_singleton [Primitives K T] (x : Exchange K T)
    (events : List (ExchangeEvent K T)) (event : ExchangeEvent K T) :
    x.run (events ++ [event]) = (x.run events).step event := by
  rw [run, run, List.foldl_append]
  rfl

/-- Along a run, a party holds the key of every missing position of a chain that was
never over-skipped. -/
theorem run_keeps (hlaws : SymbolicLaws K) {start : Exchange K T}
    (hstart : Consistent secrets shared startPosition start)
    (events : List (ExchangeEvent K T)) :
    ∃ secrets' pos', Consistent secrets' shared pos' (start.run events) ∧
      ∀ party c, c + 2 ≤ (pos' party).phase → c % 2 = (pos' party).phase % 2 →
        (start.run events).sentOn (pubkey secrets' c) < 2 ^ 32 →
        NeverOverSkipped start events party (pubkey secrets' c) →
        (start.run events).Keeps secrets' shared (pos' party) party c := by
  induction events using List.reverseRecOn with
  | nil =>
      refine ⟨secrets, startPosition, hstart, ?_⟩
      intro party c hc
      cases party with
      | initiator => exact absurd hc (by simp [startPosition, positions])
      | responder => exact absurd hc (by simp [startPosition, positions])
  | append_singleton events event ih =>
      obtain ⟨mids, midPos, hmid, hkeeps⟩ := ih
      obtain ⟨secrets', pos', h', hstep, hagree⟩ := hmid.keeps_step hlaws event
      rw [run_append_singleton]
      refine ⟨secrets', pos', h', ?_⟩
      intro party c hc hparity hcount hskipped
      have hlast := hskipped (events ++ [event]) [] (List.append_nil _).symm
      rw [run_append_singleton, h'.frontier_eq hc hparity] at hlast
      refine hstep party c hc hparity hcount hlast ?_
      intro hold
      have hlt := phase_lt_drawnCount midPos party
      have hpub : pubkey mids c = pubkey secrets' c := pubkey_congr hagree (by omega)
      have hmidParity : c % 2 = (midPos party).phase % 2 := by
        have h1 := hmid.initiator_odd
        have h2 := hmid.responder_even
        have h3 := h'.initiator_odd
        have h4 := h'.responder_even
        cases party with
        | initiator => omega
        | responder => omega
      apply hkeeps party c hold hmidParity
      · rw [hpub]
        exact lt_of_le_of_lt (sentOn_step_le _ event _) hcount
      · rw [hpub]
        intro before after heq
        exact hskipped before (after ++ [event]) (by rw [heq, List.append_assoc])

/-! The messages that are accepted. -/

/-- Message `m` is still to be delivered, inside the limits of the session: its chain
is one the receiver can still open and was never over-skipped, and delivering it
skips at most `MAX_SKIP` messages, of its own chain and of the chain it retires. -/
structure Deliverable (start : Exchange K T) (events : List (ExchangeEvent K T))
    (m : SentMessage K T) : Prop where
  new : ¬ (start.run events).acceptedAt m.envelope.sender m.position
  chain : m.envelope.sender ∈ (start.run events).chains m.author.other →
    m.envelope.sender ∈ ((start.run events).chains m.author.other).take 2
  neverOverSkipped : NeverOverSkipped start events m.author.other m.envelope.sender
  window : ((start.run events).missing m.envelope.sender m.position).card ≤ MAX_SKIP
  fits : (start.run events).sentOn m.envelope.sender < 2 ^ 32
  retired : m.envelope.sender ∉ (start.run events).chains m.author.other →
    ∀ current ∈ ((start.run events).chains m.author.other).head?,
      (start.run events).sentOn current < 2 ^ 32 ∧
        (start.run events).sentOn current - (start.run events).reached current ≤ MAX_SKIP

omit [LinearOrder K] in
theorem mem_take_receivedChains {q : Nat} {sender : DevicePubkey K}
    (h : sender ∈ (receivedChains secrets q).take 2) :
    ∃ c, (c + 2 = q ∨ c + 4 = q) ∧ sender = pubkey secrets c := by
  match q with
  | 0 => cases h
  | 1 => cases h
  | 2 => exact ⟨0, Or.inl rfl, List.mem_singleton.mp h⟩
  | 3 => exact ⟨1, Or.inl rfl, List.mem_singleton.mp h⟩
  | q + 4 =>
      rcases List.mem_cons.mp h with rfl | h
      · exact ⟨q + 2, Or.inl rfl, rfl⟩
      · exact ⟨q, Or.inr rfl, List.mem_singleton.mp h⟩

/-- An accepted message was new, came from the other party, and yields its payload. -/
theorem Consistent.accepts_new (hlaws : SymbolicLaws K) (h : Consistent secrets shared pos x)
    {party : Party} {m : SentMessage K T} (hm : m ∈ x.sent) {plan : ReceivePlan K T}
    {rng : Rng K}
    (hplan : (x.sessions party).planReceive m.envelope x.rng = (.ok plan, rng)) :
    ¬ x.acceptedAt m.envelope.sender m.position ∧ party ≠ m.author ∧
      plan.payload = m.payload := by
  obtain ⟨secrets', pos', h', -⟩ := h.recordReceive hlaws hm hplan
  obtain ⟨c, hc, -, -, henv⟩ := h.sent m hm
  have hlt := phase_lt_drawnCount pos
  obtain ⟨hsender, hpayload, -⟩ := planReceive_cases hlaws h.distinct (h.atPhase party)
    (h.retained party) (hlt party) henv (by have := hlt m.author; omega) (h.fresh.valid 0) hplan
  have hmsender : plan.sender = m.envelope.sender := hsender.trans henv.sender.symm
  refine ⟨?_, ?_, hpayload⟩
  · rintro ⟨a, ha, hasender, haposition⟩
    exact (List.pairwise_cons.mp h'.acceptedOnce).1 a ha (hmsender.trans hasender.symm)
      haposition.symm
  · rintro rfl
    obtain ⟨m', hm', hauthor, hmsender', -⟩ := h'.accepted _ List.mem_cons_self
    obtain ⟨d, hd, hdparity, -, henv'⟩ := h.sent m' hm'
    obtain ⟨c', hc', hcparity, -, henv''⟩ := h.sent m hm
    have heq := h.distinct.inj d c' (by have := hlt m'.author; omega)
      (by have := hlt m.author; omega)
      (henv'.sender.symm.trans (hmsender'.trans (hmsender.trans henv''.sender)))
    rw [heq] at hdparity
    exact hauthor (h.party_unique (hdparity.symm.trans hcparity))

/-- A message inside the limits is accepted. -/
private theorem Consistent.accepts (hlaws : SymbolicLaws K) {start : Exchange K T}
    {events : List (ExchangeEvent K T)} (h : Consistent secrets shared pos (start.run events))
    (hkeeps : ∀ party c, c + 2 ≤ (pos party).phase → c % 2 = (pos party).phase % 2 →
      (start.run events).sentOn (pubkey secrets c) < 2 ^ 32 →
      NeverOverSkipped start events party (pubkey secrets c) →
      (start.run events).Keeps secrets shared (pos party) party c)
    {m : SentMessage K T} (hm : m ∈ (start.run events).sent) (hd : Deliverable start events m) :
    ∃ plan rng, ((start.run events).sessions m.author.other).planReceive m.envelope
        (start.run events).rng = (.ok plan, rng) ∧ plan.payload = m.payload := by
  obtain ⟨c, hc, hcparity, hposition, henv⟩ := h.sent m hm
  have hlt := phase_lt_drawnCount pos
  have hcLt : c + 2 < drawnCount pos := by
    have := hlt m.author
    omega
  have hotherParity := h.parity m.author
  have hback : m.author.other.other = m.author := by
    cases m.author <;> rfl
  have hadjacent := h.adjacent m.author
  have hnew := hd.new
  have hchain := hd.chain
  have hskipped := hd.neverOverSkipped
  have hwindow := hd.window
  have hfits := hd.fits
  have hretired := hd.retired
  rw [henv.sender] at hnew hchain hskipped hwindow hfits hretired
  generalize m.author.other = receiver at *
  generalize hx : start.run events = x at *
  have hmod : m.position % 2 ^ 32 = m.position := Nat.mod_eq_of_lt (by omega)
  have hn := hlt receiver
  by_cases hmem : pubkey secrets c ∈ x.chains receiver
  · have htake := hchain hmem
    rw [h.chains] at htake
    obtain ⟨d, hphase, heq⟩ := mem_take_receivedChains htake
    obtain rfl := h.distinct.inj c d (by omega) (by omega) heq
    have hle : c + 2 ≤ (pos receiver).phase := by omega
    have hparity : c % 2 = (pos receiver).phase % 2 := by omega
    have hall := hkeeps receiver c hle hparity hfits hskipped
    by_cases hreach : m.position < x.reach secrets (pos receiver) c
    · have hget := hall m.position hreach hnew
      refine ⟨_, _, planReceive_retained hlaws h.distinct (h.atPhase receiver) hn henv hcLt
        hphase ?_, rfl⟩
      rw [hmod]
      exact hget
    · have hcurrent : c + 2 = (pos receiver).phase := by
        by_contra hne
        rw [reach, if_neg hne] at hreach
        exact hreach hposition
      have hreachEq : x.reach secrets (pos receiver) c = (pos receiver).received :=
        if_pos hcurrent
      rw [hreachEq] at hreach
      have hgap : m.position - (pos receiver).received ≤ MAX_SKIP := by
        rw [← Nat.card_Ico]
        apply (Finset.card_le_card _).trans hwindow
        intro y hy
        rw [Finset.mem_Ico] at hy
        refine mem_missing.mpr ⟨hy.2, fun hacc => ?_⟩
        have := h.acceptedAt_lt hle hparity hacc
        omega
      have hnone : ((x.sessions receiver).state.skippedFrom (pubkey secrets c)).get?
          (m.position % 2 ^ 32) = none := by
        rw [Option.eq_none_iff_forall_ne_some]
        intro key hget
        obtain ⟨p, hp, hnumber, -⟩ := (h.retained receiver).key c _ key hle hparity hget
        omega
      exact ⟨_, _, planReceive_later hlaws h.distinct (h.atPhase receiver) hn henv hcurrent hnone
        (by omega) (by omega), rfl⟩
  · have hphase : c = (pos receiver).phase := by
      have hnot : ¬ c + 2 ≤ (pos receiver).phase := by
        intro hle
        apply hmem
        rw [h.chains]
        exact mem_receivedChains hle (by omega)
      omega
    have hgap : RetirementGap (pos receiver) (x.lengthAt secrets (back c 2)) := by
      intro htwo
      obtain ⟨d, hd⟩ : ∃ d, d + 2 = (pos receiver).phase := ⟨(pos receiver).phase - 2, by omega⟩
      have hhead : pubkey secrets d ∈ (x.chains receiver).head? := by
        rw [h.chains, ← hd]
        rfl
      obtain ⟨hcount, hlate⟩ := hretired hmem _ hhead
      rw [h.reached_eq hd] at hlate
      have hreceived := h.receivedCount receiver d hd
      rw [back_eq_some.mpr (hd.trans hphase.symm), lengthAt]
      omega
    have hshort : m.position ≤ MAX_SKIP := by
      have hcard := Finset.card_range m.position
      rw [← hcard]
      apply (Finset.card_le_card _).trans hwindow
      intro y hy
      exact mem_missing.mpr ⟨Finset.mem_range.mp hy, h.not_acceptedAt_next receiver hphase y⟩
    obtain ⟨plan, hplan, hpayload⟩ := planReceive_next hlaws h.distinct (h.atPhase receiver)
      (h.retained receiver) hn henv hcLt hphase (h.fresh.valid 0) hgap hmod hshort
    exact ⟨plan, _, hplan, hpayload⟩

/-! Both logs only grow, so a chain nothing was accepted from was never over-skipped. -/

private theorem mem_accepted_step {event : ExchangeEvent K T} {a : AcceptedMessage K T}
    (h : a ∈ x.accepted) : a ∈ (x.step event).accepted := by
  cases event with
  | send party bodyNonce headerNonce payload now =>
      rw [step]
      split
      · exact h
      · exact h
  | deliver party index =>
      rw [step]
      split
      · exact h
      · split
        · exact List.mem_cons_of_mem _ h
        · exact h

private theorem mem_chains_step {event : ExchangeEvent K T} {party : Party}
    {sender : DevicePubkey K} (h : sender ∈ x.chains party) :
    sender ∈ (x.step event).chains party := by
  cases event with
  | send sending bodyNonce headerNonce payload now =>
      rw [step]
      split
      · exact h
      · exact h
  | deliver receiver index =>
      rw [step]
      split
      · exact h
      · split
        · rw [recordReceive]
          by_cases hp : party = receiver
          · subst hp
            simp only [Function.update_self]
            split
            · exact h
            · exact List.mem_cons_of_mem _ h
          · simp only [Function.update_of_ne hp]
            exact h
        · exact h

private theorem run_grows (x : Exchange K T) (events : List (ExchangeEvent K T)) :
    (∀ a ∈ x.accepted, a ∈ (x.run events).accepted) ∧
      ∀ party, ∀ sender ∈ x.chains party, sender ∈ (x.run events).chains party := by
  induction events generalizing x with
  | nil => exact ⟨fun _ h => h, fun _ _ h => h⟩
  | cons event rest ih =>
      obtain ⟨haccepted, hchains⟩ := ih (x.step event)
      exact ⟨fun a h => haccepted a (mem_accepted_step h),
        fun party sender h => hchains party sender (mem_chains_step h)⟩

theorem neverOverSkipped_of_unknown {start : Exchange K T} {events : List (ExchangeEvent K T)}
    {party : Party} {sender : DevicePubkey K}
    (haccepted : ∀ p, ¬ (start.run events).acceptedAt sender p)
    (hchain : sender ∉ (start.run events).chains party) :
    NeverOverSkipped start events party sender := by
  rintro before after rfl
  have hsplit : start.run (before ++ after) = (start.run before).run after :=
    List.foldl_append
  rw [hsplit] at haccepted hchain
  obtain ⟨hgrows, hchains⟩ := run_grows (start.run before) after
  have hreached : (start.run before).reached sender ≤ 0 := by
    apply reached_le
    rintro p ⟨a, ha, hrest⟩
    exact absurd ⟨a, hgrows a ha, hrest⟩ (haccepted p)
  have hfrontier : (start.run before).frontier party sender = 0 := by
    rw [frontier, if_neg (fun hmem => hchain (hchains party sender (List.mem_of_mem_tail hmem)))]
    omega
  rw [hfrontier]
  exact Nat.zero_le _

/-- Delivering a message of the next chain takes the ratchet step. -/
theorem Consistent.step_next (hlaws : SymbolicLaws K) (h : Consistent secrets shared pos x)
    (party : Party) {index : Nat} {m : SentMessage K T} (hget : x.sent[index]? = some m)
    (hsender : m.envelope.sender = pubkey secrets (pos party).phase)
    (hgap : RetirementGap (pos party) (x.lengthAt secrets (back (pos party).phase 2)))
    (hmod : m.position % 2 ^ 32 = m.position) (hshort : m.position ≤ MAX_SKIP) :
    ∃ secrets' plan rng, x.step (.deliver party index) = x.recordReceive party m plan rng ∧
      plan.sender = m.envelope.sender ∧
      Consistent secrets' shared (Function.update pos party
        ⟨(pos party).phase + 2, 0, (pos party).sent, m.position + 1⟩)
        (x.recordReceive party m plan rng) ∧
      ∀ i < drawnCount pos, secrets i = secrets' i := by
  have hm : m ∈ x.sent := List.mem_of_getElem? hget
  obtain ⟨c, hc, -, -, henv⟩ := h.sent m hm
  have hlt := phase_lt_drawnCount pos
  have hcLt : c + 2 < drawnCount pos := by
    have := hlt m.author
    omega
  have hphase : c = (pos party).phase := h.distinct.inj c _ (by omega)
    (by have := hlt party; omega) (henv.sender.symm.trans hsender)
  rw [← hphase] at hgap
  obtain ⟨plan, hplan, -⟩ := planReceive_next hlaws h.distinct (h.atPhase party)
    (h.retained party) (hlt party) henv hcLt hphase (h.fresh.valid 0) hgap hmod hshort
  obtain ⟨secrets', pos', h', hreception, hagree⟩ := h.recordReceive hlaws hm hplan
  obtain ⟨hplanSender, -⟩ := planReceive_cases hlaws h.distinct (h.atPhase party)
    (h.retained party) (hlt party) henv hcLt (h.fresh.valid 0) hplan
  have hother : ∀ d, plan.sender = pubkey secrets d → d + 2 ≤ (pos party).phase → False := by
    intro d hd hle
    have := h.distinct.inj c d (by omega) (by have := hlt party; omega)
      (hplanSender.symm.trans hd)
    omega
  have hpos : pos' = Function.update pos party
      ⟨(pos party).phase + 2, 0, (pos party).sent, m.position + 1⟩ := by
    cases hreception with
    | retained d hd _ hdsender => exact (hother d hdsender hd).elim
    | later d hd hdsender => exact (hother d hdsender hd.le).elim
    | ratchet d _ hd => rw [hd]
  rw [hpos] at h'
  refine ⟨secrets', plan, _, ?_, hplanSender.trans henv.sender.symm, h', hagree⟩
  rw [Exchange.step, hget]
  simp only [hplan]

/-- The chain the next ratchet step starts is not among the receiving chains. -/
theorem Consistent.not_mem_chains_next (h : Consistent secrets shared pos x) (party : Party)
    {c : Nat} (hphase : c = (pos party).phase) : pubkey secrets c ∉ x.chains party := by
  intro hmem
  have hlt := phase_lt_drawnCount pos party
  rw [h.chains] at hmem
  obtain ⟨d, hd, -, heq⟩ := of_mem_receivedChains hmem
  have := h.distinct.inj c d (by omega) (by omega) heq
  omega

/-- A message of the next chain is accepted only inside the retirement gap. -/
theorem Consistent.next_gap (hlaws : SymbolicLaws K) (h : Consistent secrets shared pos x)
    (party : Party) {m : SentMessage K T} (hm : m ∈ x.sent)
    (hsender : m.envelope.sender = pubkey secrets (pos party).phase) {plan : ReceivePlan K T}
    {rng : Rng K} (hplan : (x.sessions party).planReceive m.envelope x.rng = (.ok plan, rng)) :
    RetirementGap (pos party) (x.lengthAt secrets (back (pos party).phase 2)) := by
  obtain ⟨c, hc, -, -, henv⟩ := h.sent m hm
  have hlt := phase_lt_drawnCount pos
  have hcLt : c + 2 < drawnCount pos := by
    have := hlt m.author
    omega
  have hphase : c = (pos party).phase := h.distinct.inj c _ (by omega)
    (by have := hlt party; omega) (henv.sender.symm.trans hsender)
  obtain ⟨-, -, hpath⟩ := planReceive_cases hlaws h.distinct (h.atPhase party)
    (h.retained party) (hlt party) henv hcLt (h.fresh.valid 0) hplan
  rcases hpath with ⟨hle, -⟩ | ⟨hcurrent, -⟩ | ⟨-, -, hgap, -⟩
  · omega
  · omega
  · rw [← hphase]
    exact hgap

/-- Sending appends a message of the party's sending chain. -/
theorem Consistent.step_send (hlaws : SymbolicLaws K) (h : Consistent secrets shared pos x)
    {party : Party} {bodyNonce headerNonce : K} {payload : T} {now : UnixSeconds}
    {plan : SendPlan K T}
    (hplan : (x.sessions party).planSend bodyNonce headerNonce payload now = .ok plan) :
    ∃ m, x.step (.send party bodyNonce headerNonce payload now) = x.recordSend party plan ∧
      (x.recordSend party plan).sent = x.sent ++ [m] ∧
      some m.envelope.sender = (back (pos party).phase 1).map (pubkey secrets) ∧
      m.position = (pos party).sent ∧ m.author = party := by
  obtain ⟨c, hc, henv, -⟩ := planSend_eq_ok hlaws h.distinct (h.atPhase party)
    (phase_lt_drawnCount pos party) hplan
  refine ⟨_, ?_, rfl, ?_, ?_, rfl⟩
  · rw [Exchange.step, hplan]
  · rw [back_eq_some.mpr hc, henv.sender]
    rfl
  · rw [h.sentCount, back_eq_some.mpr hc, henv.sender]
    rfl

/-- In every run of two honest sessions, no message is accepted twice, an accepted
message yields the payload its author sent, and a message inside the limits of the
session is accepted whenever it is delivered. -/
theorem run_accepts (hlaws : SymbolicLaws K) {inviteSecret initiatorSecret shared : K}
    {rng : Rng K} {start : Exchange K T}
    (hstart : Started inviteSecret initiatorSecret shared rng start)
    (hfresh : FreshStart initiatorSecret rng start) (events : List (ExchangeEvent K T)) :
    (start.run events).sent.Pairwise (fun a b =>
      a.envelope.sender = b.envelope.sender → a.position < b.position) ∧
    (start.run events).accepted.Pairwise (fun a b =>
      a.sender = b.sender → a.position ≠ b.position) ∧
    ∀ m ∈ (start.run events).sent,
      (∀ party plan rng', ((start.run events).sessions party).planReceive m.envelope
          (start.run events).rng = (.ok plan, rng') →
        ¬ (start.run events).acceptedAt m.envelope.sender m.position ∧ party ≠ m.author ∧
          plan.payload = m.payload) ∧
      (Deliverable start events m →
        ∃ plan rng', ((start.run events).sessions m.author.other).planReceive m.envelope
          (start.run events).rng = (.ok plan, rng') ∧ plan.payload = m.payload) := by
  obtain ⟨secrets, hconsistent⟩ := hstart.consistent hlaws hfresh
  obtain ⟨secrets', pos', h, hkeeps⟩ := run_keeps hlaws hconsistent events
  refine ⟨h.positions, h.acceptedOnce, ?_⟩
  intro m hm
  refine ⟨?_, fun hd => h.accepts hlaws hkeeps hm hd⟩
  intro party plan rng' hplan
  exact h.accepts_new hlaws hm hplan

end Exchange

namespace Symbolic

open Exchange

private theorem positions_initiator (i r : Position) : positions i r .initiator = i := rfl

private theorem positions_responder (i r : Position) : positions i r .responder = r := rfl

private theorem update_initiator (i r p : Position) :
    Function.update (positions i r) .initiator p = positions p r := by
  funext party
  cases party <;> rfl

private theorem update_responder (i r p : Position) :
    Function.update (positions i r) .responder p = positions i p := by
  funext party
  cases party <;> rfl

def generator : Rng KeyTerm where
  secretKeys i := .secret (i + 2)
  words _ := 0
  aux _ := .secret 0
  nonces _ := .secret 0

def initiator : Session KeyTerm :=
  ((Session.newInitiator ⟨.point (.secret 1)⟩ (.secret 0) (.digest "shared")
    generator).1.toOption).get rfl

def responder : Session KeyTerm :=
  ((Session.newResponder ⟨.point (.secret 0)⟩ (.secret 1) (.digest "shared")
    generator).1.toOption).get rfl

/-- An invite key `secret 1` and an initiator key `secret 0`. -/
def start : Exchange KeyTerm TextTerm where
  sessions
    | .initiator => initiator
    | .responder => responder
  sent := []
  accepted := []
  chains _ := []
  rng := { generator with secretKeys := generator.secretKeys.tail.tail }

theorem started : Started (.secret 1) (.secret 0) (.digest "shared") generator start :=
  ⟨initiator, responder, { generator with secretKeys := generator.secretKeys.tail }, rfl, rfl,
    rfl, rfl, rfl, rfl, fun _ => rfl⟩

theorem freshStart : FreshStart (.secret 0) generator start where
  responder := by decide
  draws := by
    refine ⟨fun _ => rfl, ?_, ?_⟩
    · intro i j heq
      have := KeyTerm.secret.inj (KeyTerm.point.inj heq)
      omega
    · rintro i (heq | heq)
      · have := KeyTerm.secret.inj (KeyTerm.point.inj (DevicePubkey.mk.inj heq))
        omega
      · cases KeyTerm.point.inj (DevicePubkey.mk.inj heq)

def hello (party : Party) : ExchangeEvent KeyTerm TextTerm :=
  .send party (.secret 0) (.secret 0) (.bytes "hello") 0

variable {secrets : Nat → KeyTerm} {shared : KeyTerm} {pos : Party → Position}
  {x : Exchange KeyTerm TextTerm}

private theorem planSend_ok {session : Session KeyTerm} {pos : Position}
    (hat : AtPhase secrets shared pos session.state) (hphase : 1 ≤ pos.phase) :
    ∃ plan, session.planSend (.secret 0) (.secret 0) (.bytes "hello") 0 = .ok plan := by
  have hback : back pos.phase 1 = some (pos.phase - 1) := back_eq_some.mpr (by omega)
  have hcan : session.canSend = true := by
    rw [Session.canSend, hat.version, hat.theirNext, hat.ourCurrent, hback]
    rfl
  rw [Session.planSend, hcan, ratchetEncrypt, hat.sendingChain, hback]
  simp only [hat.ourCurrent, hat.theirNext, hback]
  exact ⟨_, rfl⟩

private theorem step_hello (h : Consistent secrets shared pos x) (party : Party)
    (hphase : 1 ≤ (pos party).phase) :
    ∃ m, (x.step (hello party)).sent = x.sent ++ [m] ∧
      some m.envelope.sender = (back (pos party).phase 1).map (pubkey secrets) ∧
      m.position = (pos party).sent ∧ m.author = party ∧
      Consistent secrets shared
        (Function.update pos party { pos party with sent := (pos party).sent + 1 })
        (x.step (hello party)) ∧
      (x.step (hello party)).accepted = x.accepted ∧
      (x.step (hello party)).chains = x.chains := by
  obtain ⟨plan, hplan⟩ := planSend_ok (h.atPhase party) hphase
  obtain ⟨m, hstep, hsent, hrest, hposition, hauthor⟩ := h.step_send symbolicLaws hplan
  refine ⟨m, ?_, hrest, hposition, hauthor, ?_, ?_, ?_⟩
  · rw [hello, hstep, hsent]
  · rw [hello, hstep]
    exact h.recordSend symbolicLaws hplan
  · rw [hello, hstep]
    rfl
  · rw [hello, hstep]
    rfl

private theorem run_hello (n : Nat) (h : Consistent secrets shared pos x) (party : Party)
    (hphase : 1 ≤ (pos party).phase) :
    (∃ more, (x.run (List.replicate n (hello party))).sent = x.sent ++ more ∧ more.length = n) ∧
      Consistent secrets shared
        (Function.update pos party { pos party with sent := (pos party).sent + n })
        (x.run (List.replicate n (hello party))) ∧
      (x.run (List.replicate n (hello party))).accepted = x.accepted ∧
      (x.run (List.replicate n (hello party))).chains = x.chains := by
  induction n generalizing x pos with
  | zero =>
      refine ⟨⟨[], (List.append_nil _).symm, rfl⟩, ?_, rfl, rfl⟩
      rw [Nat.add_zero, Function.update_eq_self]
      exact h
  | succ n ih =>
      obtain ⟨m, hsent, -, -, -, h', haccepted, hchains⟩ := step_hello h party hphase
      rw [List.replicate_succ]
      change (∃ more, ((x.step (hello party)).run (List.replicate n (hello party))).sent = _ ∧ _) ∧
        Consistent _ _ _ ((x.step (hello party)).run (List.replicate n (hello party))) ∧
        ((x.step (hello party)).run (List.replicate n (hello party))).accepted = _ ∧
        ((x.step (hello party)).run (List.replicate n (hello party))).chains = _
      obtain ⟨⟨more, hmore, hlength⟩, h'', haccepted', hchains'⟩ := ih h'
        (by simpa only [Function.update_self] using hphase)
      refine ⟨⟨m :: more, ?_, ?_⟩, ?_, haccepted'.trans haccepted, hchains'.trans hchains⟩
      · rw [hmore, hsent, List.append_assoc]
        rfl
      · rw [List.length_cons, hlength]
      · rw [Function.update_self, Function.update_idem] at h''
        simp only [Nat.add_assoc, Nat.add_comm 1 n] at h''
        exact h''

/-- A message sent before the receiver answered is accepted over a skipped one. -/
theorem run_accepts_second_hello : ∃ m plan rng',
    (start.run [hello .initiator, hello .initiator]).sent[1]? = some m ∧
    ((start.run [hello .initiator, hello .initiator]).sessions .responder).planReceive m.envelope
      (start.run [hello .initiator, hello .initiator]).rng = (.ok plan, rng') ∧
    plan.payload = m.payload := by
  obtain ⟨secrets, h0⟩ := started.consistent symbolicLaws freshStart
  obtain ⟨m0, hsent0, -, -, -, h1, haccepted0, hchains0⟩ :=
    step_hello h0 .initiator le_rfl
  obtain ⟨m1, hsent1, -, hposition, hauthor, -, haccepted1, hchains1⟩ :=
    step_hello h1 .initiator le_rfl
  have hrun : start.run [hello .initiator, hello .initiator] =
      (start.step (hello .initiator)).step (hello .initiator) := rfl
  have hget : (start.run [hello .initiator, hello .initiator]).sent[1]? = some m1 := by
    rw [hrun, hsent1, hsent0]
    rfl
  have hnone : ∀ sender p,
      ¬ (start.run [hello .initiator, hello .initiator]).acceptedAt sender p := by
    rintro sender p ⟨a, ha, -⟩
    rw [hrun, haccepted1, haccepted0] at ha
    cases ha
  have hchains : ∀ party,
      (start.run [hello .initiator, hello .initiator]).chains party = [] := by
    intro party
    rw [hrun, hchains1, hchains0]
    rfl
  have hcount : ∀ sender,
      (start.run [hello .initiator, hello .initiator]).sentOn sender ≤ 2 := by
    intro sender
    rw [sentOn]
    refine List.countP_le_length.trans_eq ?_
    rw [hrun, hsent1, hsent0]
    rfl
  obtain ⟨-, -, hall⟩ := run_accepts symbolicLaws started freshStart
    [hello .initiator, hello .initiator]
  obtain ⟨plan, rng', hplan, hpayload⟩ := (hall m1 (List.mem_of_getElem? hget)).2 {
    new := hnone _ _
    chain := fun hmem => by
      rw [hchains] at hmem
      cases hmem
    neverOverSkipped := neverOverSkipped_of_unknown (hnone _) (by
      rw [hchains]
      exact List.not_mem_nil)
    window := by
      refine (Finset.card_filter_le _ _).trans ?_
      rw [Finset.card_range, hposition]
      decide
    fits := by
      have := hcount m1.envelope.sender
      omega
    retired := fun _ current hcurrent => by
      rw [hchains] at hcurrent
      cases hcurrent }
  rw [hauthor] at hplan
  exact ⟨m1, plan, rng', hget, hplan, hpayload⟩

/-- `n + 1` messages of the initiator, of which only the first arrives before the
parties change keys. -/
def longSilence (n : Nat) : List (ExchangeEvent KeyTerm TextTerm) :=
  hello .initiator :: List.replicate n (hello .initiator) ++
    [.deliver .responder 0, hello .responder, .deliver .initiator (n + 1), hello .initiator]

private theorem rejected_after_longSilence {n : Nat} (hn : MAX_SKIP < n) (hfits : n + 1 < 2 ^ 32) :
    ∃ m ∈ (start.run (longSilence n)).sent, m.author = .initiator ∧ m.position = 0 ∧
      (∀ p, ¬ (start.run (longSilence n)).acceptedAt m.envelope.sender p) ∧
      m.envelope.sender ∉ (start.run (longSilence n)).chains .responder ∧
      NeverOverSkipped start (longSilence n) .responder m.envelope.sender ∧
      ∀ plan rng', ((start.run (longSilence n)).sessions .responder).planReceive m.envelope
        (start.run (longSilence n)).rng ≠ (.ok plan, rng') := by
  obtain ⟨secrets0, h0⟩ := started.consistent symbolicLaws freshStart
  obtain ⟨m0, hsent0, hsender0, hposition0, -, h1, -⟩ :=
    step_hello h0 .initiator le_rfl
  change m0.position = 0 at hposition0
  simp only [startPosition, update_initiator, positions_initiator] at h1
  obtain ⟨⟨more, hsent2, hlength⟩, h2, -⟩ := run_hello n h1 .initiator le_rfl
  simp only [update_initiator, positions_initiator] at h2
  have hrun : start.run (longSilence n) = (((((start.step (hello .initiator)).run
      (List.replicate n (hello .initiator))).step (.deliver .responder 0)).step
      (hello .responder)).step (.deliver .initiator (n + 1))).step (hello .initiator) := by
    simp only [longSilence, run, List.cons_append, List.foldl_append, List.foldl_cons,
      List.foldl_nil]
  generalize (start.step (hello .initiator)).run (List.replicate n (hello .initiator)) = x2
    at hrun hsent2 h2
  have hlength2 : x2.sent.length = n + 1 := by
    have hnil : start.sent.length = 0 := rfl
    rw [hsent2, hsent0, List.length_append, hlength, List.length_append, List.length_singleton]
    omega
  have hget0 : x2.sent[0]? = some m0 := by
    rw [hsent2, hsent0]
    rfl
  obtain ⟨secrets3, plan3, rng3, hstep3, -, h3, -⟩ := h2.step_next symbolicLaws
    .responder hget0 (Option.some.inj hsender0) (by intro h; cases h)
    (by rw [hposition0]; rfl) (by rw [hposition0]; decide)
  simp only [update_responder, positions_responder, hposition0] at h3
  rw [hstep3] at hrun
  have hlength3 : (x2.recordReceive .responder m0 plan3 rng3).sent.length = n + 1 := hlength2
  generalize x2.recordReceive .responder m0 plan3 rng3 = x3 at hrun h3 hlength3
  obtain ⟨m4, hsent4, hsender4, hposition4, -, h4, -⟩ :=
    step_hello h3 .responder (Nat.succ_le_succ (Nat.zero_le 1))
  change m4.position = 0 at hposition4
  simp only [update_responder, positions_responder] at h4
  generalize x3.step (hello .responder) = x4 at hrun hsent4 h4
  have hget4 : x4.sent[n + 1]? = some m4 := by
    rw [hsent4, ← hlength3, List.getElem?_append_right le_rfl, Nat.sub_self]
    rfl
  obtain ⟨secrets5, plan5, rng5, hstep5, -, h5, -⟩ := h4.step_next symbolicLaws
    .initiator hget4 (Option.some.inj hsender4) (by intro h; simp only [positions_initiator] at h; omega)
    (by rw [hposition4]; rfl) (by rw [hposition4]; decide)
  simp only [update_initiator, positions_initiator, hposition4] at h5
  rw [hstep5] at hrun
  generalize x4.recordReceive .initiator m4 plan5 rng5 = x5 at hrun h5
  obtain ⟨m6, hsent6, hsender6, hposition6, hauthor6, h6, -⟩ :=
    step_hello h5 .initiator (Nat.succ_le_succ (Nat.zero_le 2))
  simp only [update_initiator, positions_initiator] at h6
  rw [← hrun] at hsent6 h6
  have hsender : m6.envelope.sender = pubkey secrets5 2 := Option.some.inj hsender6
  have hm6 : m6 ∈ (start.run (longSilence n)).sent := by
    rw [hsent6]
    exact List.mem_append_right _ List.mem_cons_self
  have hnone : ∀ p, ¬ (start.run (longSilence n)).acceptedAt m6.envelope.sender p := by
    intro p
    rw [hsender]
    exact h6.not_acceptedAt_next .responder rfl p
  have hchain : m6.envelope.sender ∉ (start.run (longSilence n)).chains .responder := by
    rw [hsender]
    exact h6.not_mem_chains_next .responder rfl
  refine ⟨m6, hm6, hauthor6, hposition6, hnone, hchain,
    neverOverSkipped_of_unknown hnone hchain, ?_⟩
  intro plan rng' hplan
  have hgap := h6.next_gap symbolicLaws .responder hm6 hsender hplan le_rfl
  have hprevious : 0 + 1 + n = (start.run (longSilence n)).lengthAt secrets5 (some 0) :=
    h6.previousCount .initiator
  rw [positions_responder, back_eq_some.mpr rfl, ← hprevious] at hgap
  simp only at hgap
  omega

/-- The first message of a new chain is rejected when the chain it retires has more
than `MAX_SKIP` messages left to skip, although nothing is missing in its own chain. -/
theorem first_of_chain_rejected_after_longSilence :
    Started (.secret 1) (.secret 0) (.digest "shared") generator start ∧
    FreshStart (.secret 0) generator start ∧
    ∃ m ∈ (start.run (longSilence 1002)).sent, m.author = .initiator ∧ m.position = 0 ∧
      (∀ p, ¬ (start.run (longSilence 1002)).acceptedAt m.envelope.sender p) ∧
      m.envelope.sender ∉ (start.run (longSilence 1002)).chains .responder ∧
      NeverOverSkipped start (longSilence 1002) .responder m.envelope.sender ∧
      ∀ plan rng', ((start.run (longSilence 1002)).sessions .responder).planReceive m.envelope
        (start.run (longSilence 1002)).rng ≠ (.ok plan, rng') :=
  ⟨started, freshStart, rejected_after_longSilence (by decide) (by decide)⟩

end Symbolic

end NostrDoubleRatchet
