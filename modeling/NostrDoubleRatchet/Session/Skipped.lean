import NostrDoubleRatchet.Session.Delivery

/-!
Whether a retained message key can still be used. The key stays in `skipped_keys`
until its message arrives, but the header of that message opens only under our
current or previous key pair, and the second ratchet step after the chain was
retired drops the pair it was sealed to.
-/

namespace NostrDoubleRatchet

open KeySchedule

namespace Exchange

variable {K T : Type} [LinearOrder K] [Primitives K T]
  {secrets : Nat → K} {shared : K} {pos : Party → Position} {x : Exchange K T}

private theorem mem_of_increasing {l : List Nat} (hlt : l.Pairwise (· < ·))
    (hbound : ∀ p ∈ l, p < l.length) {p : Nat} (hp : p < l.length) : p ∈ l := by
  have hsubset : l.toFinset ⊆ Finset.range l.length := by
    intro q hq
    exact Finset.mem_range.mpr (hbound q (List.mem_toFinset.mp hq))
  have hcard : l.toFinset.card = l.length :=
    List.toFinset_card_of_nodup (hlt.imp fun h => h.ne)
  have heq : l.toFinset = Finset.range l.length := by
    apply Finset.eq_of_subset_of_card_le hsubset
    rw [Finset.card_range, hcard]
  rw [← List.mem_toFinset, heq]
  exact Finset.mem_range.mpr hp

/-- Every position of a chain below its length was sent. -/
theorem Consistent.exists_sent (h : Consistent secrets shared pos x) {sender : DevicePubkey K}
    {p : Nat} (hp : p < x.sentOn sender) :
    ∃ m ∈ x.sent, m.envelope.sender = sender ∧ m.position = p := by
  let chain := x.sent.filter (fun m => m.envelope.sender = sender)
  have hlength : (chain.map SentMessage.position).length = x.sentOn sender := by
    rw [List.length_map, sentOn, List.countP_eq_length_filter]
  have hchain : ∀ m ∈ chain, m ∈ x.sent ∧ m.envelope.sender = sender := by
    intro m hm
    obtain ⟨hmem, hsender⟩ := List.mem_filter.mp hm
    exact ⟨hmem, of_decide_eq_true hsender⟩
  have hlt : (chain.map SentMessage.position).Pairwise (· < ·) := by
    rw [List.pairwise_map]
    refine List.Pairwise.imp_of_mem ?_ (h.positions.filter _)
    intro a b ha hb hab
    exact hab ((hchain a ha).2.trans (hchain b hb).2.symm)
  have hbound : ∀ q ∈ chain.map SentMessage.position,
      q < (chain.map SentMessage.position).length := by
    intro q hq
    obtain ⟨m, hm, rfl⟩ := List.mem_map.mp hq
    obtain ⟨hmem, hsender⟩ := hchain m hm
    obtain ⟨c, -, -, hposition, henv⟩ := h.sent m hmem
    rw [hlength, ← hsender, henv.sender]
    exact hposition
  rw [← hlength] at hp
  obtain ⟨m, hm, hposition⟩ := List.mem_map.mp (mem_of_increasing hlt hbound hp)
  exact ⟨m, (hchain m hm).1, (hchain m hm).2, hposition⟩

omit [LinearOrder K] in
private theorem mem_take_of_receivedChains {c q : Nat} (h : c + 2 = q ∨ c + 4 = q) :
    pubkey secrets c ∈ (receivedChains secrets q).take 2 := by
  rcases h with rfl | rfl
  · rw [receivedChains, List.take_succ_cons]
    exact List.mem_cons_self
  · rw [receivedChains, receivedChains, List.take_succ_cons, List.take_succ_cons]
    exact List.mem_cons_of_mem _ List.mem_cons_self

/-- A retained key belongs to one message of its chain. -/
private theorem Consistent.retained_message (h : Consistent secrets shared pos x) {party : Party}
    {sender : DevicePubkey K} {number : Nat} {key : K}
    (hget : ((x.sessions party).state.skippedFrom sender).get? number = some key) :
    ∃ c, sender = pubkey secrets c ∧ c + 2 ≤ (pos party).phase ∧
      c % 2 = (pos party).phase % 2 ∧ ∃ m ∈ x.sent, m.envelope.sender = sender ∧
        m.author ≠ party ∧ m.position % 2 ^ 32 = number ∧
        key = messageKey secrets shared c m.position ∧
        HonestEnvelope secrets shared c m.position (x.lengthAt secrets (back c 2)) m.payload
          m.envelope := by
  obtain ⟨c, hc, hparity, rfl⟩ := (h.retained party).chain sender
    (contains_of_get?_skippedFrom hget)
  obtain ⟨p, hp, hnumber, hkey, -⟩ := (h.retained party).key c number key hc hparity hget
  have hsent : p < x.sentOn (pubkey secrets c) := by
    rw [reach] at hp
    split at hp
    · rename_i hcurrent
      exact lt_of_lt_of_le hp (h.receivedCount party c hcurrent)
    · exact hp
  obtain ⟨m, hm, hsender, rfl⟩ := h.exists_sent hsent
  obtain ⟨d, hd, hdparity, -, henv⟩ := h.sent m hm
  have hlt := phase_lt_drawnCount pos
  obtain rfl := h.distinct.inj d c (by have := hlt m.author; omega)
    (by have := hlt party; omega) (henv.sender.symm.trans hsender)
  refine ⟨d, rfl, hc, hparity, m, hm, hsender, ?_, hnumber, hkey, henv⟩
  rintro rfl
  omega

/-- In every state of every run, the message a retained key belongs to is accepted
exactly when its sender key is one of the two the party accepted from last. -/
theorem retained_accepted_iff (hlaws : SymbolicLaws K)
    {inviteSecret initiatorSecret shared : K} {rng : Rng K} {start : Exchange K T}
    (hstart : Started inviteSecret initiatorSecret shared rng start)
    (hfresh : FreshStart initiatorSecret rng start) (events : List (ExchangeEvent K T))
    {party : Party} {sender : DevicePubkey K} {number : Nat} {key : K}
    (hretained : (((start.run events).sessions party).state.skippedFrom sender).get? number =
      some key) :
    ∃ m ∈ (start.run events).sent, m.envelope.sender = sender ∧ m.author ≠ party ∧
      m.position % 2 ^ 32 = number ∧
      openCiphertext key m.envelope.ciphertext = .ok m.payload ∧
      ((∃ plan rng', ((start.run events).sessions party).planReceive m.envelope
          (start.run events).rng = (.ok plan, rng') ∧ plan.payload = m.payload) ↔
        sender ∈ ((start.run events).chains party).take 2) := by
  obtain ⟨secrets0, hconsistent⟩ := hstart.consistent hlaws hfresh
  obtain ⟨secrets, pos, h⟩ := hconsistent.run hlaws events
  obtain ⟨c, rfl, hc, hparity, m, hm, hsender, hauthor, hnumber, hkey, henv⟩ :=
    h.retained_message hretained
  have hlt := phase_lt_drawnCount pos party
  refine ⟨m, hm, hsender, hauthor, hnumber,
    (openCiphertext_honest hlaws henv).mpr ⟨hkey, rfl⟩, ?_, ?_⟩
  · rintro ⟨plan, rng', hplan, -⟩
    rw [h.chains]
    apply mem_take_of_receivedChains
    obtain ⟨-, -, hpath⟩ := planReceive_cases hlaws h.distinct (h.atPhase party)
      (h.retained party) hlt henv (by omega) (h.fresh.valid 0) hplan
    rcases hpath with ⟨-, hle, -⟩ | ⟨hcurrent, -⟩ | ⟨hnext, -⟩
    · omega
    · exact Or.inl hcurrent
    · omega
  · intro hmem
    rw [h.chains] at hmem
    obtain ⟨d, hphase, heq⟩ := mem_take_receivedChains hmem
    obtain rfl := h.distinct.inj c d (by omega) (by omega) heq
    refine ⟨_, _, planReceive_retained hlaws h.distinct (h.atPhase party) hlt henv (by omega)
      hphase ?_, rfl⟩
    rw [hnumber, ← hkey]
    exact hretained

end Exchange

namespace Symbolic

open Exchange

/-- The initiator's second message overtakes the first. -/
def overtaken : List (ExchangeEvent KeyTerm TextTerm) :=
  [hello .initiator, hello .initiator, .deliver .responder 1]

/-- Both parties answer twice before the first message arrives. -/
def overtakenByTwoAnswers : List (ExchangeEvent KeyTerm TextTerm) :=
  overtaken ++
    [hello .responder, .deliver .initiator 2, hello .initiator, .deliver .responder 3,
      hello .responder, .deliver .initiator 4, hello .initiator, .deliver .responder 5]

theorem retained_accepted_overtaken : ∃ m ∈ (start.run overtaken).sent, ∃ plan rng',
    ((start.run overtaken).sessions .responder).planReceive m.envelope
      (start.run overtaken).rng = (.ok plan, rng') ∧ plan.payload = m.payload := by
  have hsome : (((start.run overtaken).sessions .responder).state.skippedFrom
      ⟨.point (.secret 0)⟩ |>.get? 0).isSome = true := by decide +kernel
  obtain ⟨key, hkey⟩ := Option.isSome_iff_exists.mp hsome
  obtain ⟨m, hm, -, -, -, -, haccepted⟩ :=
    retained_accepted_iff symbolicLaws started freshStart overtaken hkey
  exact ⟨m, hm, haccepted.mpr (by decide +kernel)⟩

/-- After two more ratchet steps the key of the first message is still retained, and
the message is rejected. -/
theorem retained_rejected_after_two_answers :
    Started (.secret 1) (.secret 0) (.digest "shared") generator start ∧
    FreshStart (.secret 0) generator start ∧
    (((start.run overtakenByTwoAnswers).sessions .responder).state.skippedFrom
      ⟨.point (.secret 0)⟩ |>.get? 0).isSome = true ∧
    ∃ m, (start.run overtakenByTwoAnswers).sent[0]? = some m ∧ m.author = .initiator ∧
      m.envelope.sender = ⟨.point (.secret 0)⟩ ∧ m.position = 0 ∧
      ∀ plan rng', ((start.run overtakenByTwoAnswers).sessions .responder).planReceive m.envelope
        (start.run overtakenByTwoAnswers).rng ≠ (.ok plan, rng') := by
  refine ⟨started, freshStart, by decide +kernel, ?_⟩
  have hfirst : (start.run overtakenByTwoAnswers).sent[0]?.any (fun m =>
      m.author = .initiator ∧ m.envelope.sender = ⟨.point (.secret 0)⟩ ∧ m.position = 0 ∧
        (((start.run overtakenByTwoAnswers).sessions .responder).planReceive m.envelope
          (start.run overtakenByTwoAnswers).rng).1.isOk = false) = true := by decide +kernel
  obtain ⟨m, hget, hm⟩ := (Option.any_eq_true _ _).mp hfirst
  obtain ⟨hauthor, hsender, hposition, hfails⟩ := of_decide_eq_true hm
  refine ⟨m, hget, hauthor, hsender, hposition, ?_⟩
  intro plan rng' hplan
  rw [hplan] at hfails
  cases hfails

end Symbolic

end NostrDoubleRatchet
