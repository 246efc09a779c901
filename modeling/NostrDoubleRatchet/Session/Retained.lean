import Mathlib.Data.Finset.Card
import NostrDoubleRatchet.Session.Honest

/-!
The retained message keys of an honest party. `reach c` is the position the party
has come to on chain `c`. Every retained key is the key of a position below
`reach` that was not accepted; as long as nothing is pruned, every such position
is retained.
-/

namespace NostrDoubleRatchet

open KeySchedule

variable {K T : Type} [LinearOrder K] [Primitives K T]

structure RetainedKeys (secrets : Nat → K) (shared : K) (q : Nat) (reach : Nat → Nat)
    (accepted : Nat → Nat → Prop) (state : SessionState K) : Prop where
  chain : ∀ sender, state.skippedKeys.contains sender = true →
    ∃ c, c + 2 ≤ q ∧ c % 2 = q % 2 ∧ sender = pubkey secrets c
  key : ∀ c number key, c + 2 ≤ q → c % 2 = q % 2 →
    (state.skippedFrom (pubkey secrets c)).get? number = some key →
      ∃ p < reach c, p % 2 ^ 32 = number ∧ key = messageKey secrets shared c p ∧ ¬ accepted c p

/-- Every unaccepted position of chain `c` below `reach` has its key retained. -/
def RetainsAll (secrets : Nat → K) (shared : K) (c reach : Nat) (accepted : Nat → Prop)
    (state : SessionState K) : Prop :=
  ∀ p < reach, ¬ accepted p →
    (state.skippedFrom (pubkey secrets c)).get? p = some (messageKey secrets shared c p)

/-! How the operations change the retained keys. -/

theorem skippedFrom_of_not_contains {state : SessionState K} {sender : DevicePubkey K}
    (h : state.skippedKeys.contains sender = false) :
    state.skippedFrom sender = SortedMap.empty := by
  rw [SortedMap.contains, Option.isSome_eq_false_iff, Option.isNone_iff_eq_none] at h
  rw [SessionState.skippedFrom, h]
  rfl

theorem contains_of_get?_skippedFrom {state : SessionState K} {sender : DevicePubkey K}
    {number : Nat} {key : K} (h : (state.skippedFrom sender).get? number = some key) :
    state.skippedKeys.contains sender = true := by
  by_contra hcontains
  rw [skippedFrom_of_not_contains (Bool.eq_false_iff.mpr hcontains)] at h
  cases h

theorem skippedFrom_consume (state : SessionState K) (number : Nat)
    (sender other : DevicePubkey K) :
    (state.consume number sender).skippedFrom other =
      if sender = other then (state.skippedFrom sender).erase number
      else state.skippedFrom other := by
  by_cases hother : sender = other
  · subst hother
    rw [if_pos rfl, SessionState.skippedFrom, SessionState.consume]
    simp only
    split
    · rename_i hlength
      have hempty : ((state.skippedFrom sender).erase number).entries = [] :=
        List.length_eq_zero_iff.mp hlength
      rw [SortedMap.get?_erase_self]
      exact (SortedMap.eq_of_entries hempty).symm
    · rw [SortedMap.get?_insert_self]
      rfl
  · rw [if_neg hother, SessionState.skippedFrom, SessionState.consume]
    simp only
    split
    · rw [SortedMap.get?_erase_ne _ hother]
      rfl
    · rw [SortedMap.get?_insert_ne _ _ hother]
      rfl

theorem contains_consume {state : SessionState K} {number : Nat}
    {sender other : DevicePubkey K}
    (h : (state.consume number sender).skippedKeys.contains other = true) :
    other = sender ∨ state.skippedKeys.contains other = true := by
  by_cases hother : sender = other
  · exact Or.inl hother.symm
  · refine Or.inr ?_
    rw [SortedMap.contains, SessionState.consume] at h
    simp only at h
    split at h
    · rwa [SortedMap.get?_erase_ne _ hother] at h
    · rwa [SortedMap.get?_insert_ne _ _ hother] at h

theorem skippedFrom_skipTo (state : SessionState K) (chain : K) (number : Nat)
    (sender other : DevicePubkey K) :
    (state.skipTo chain number sender).skippedFrom other =
      if sender = other ∧ state.receivingChainMessageNumber < number then
        pruneSkippedMessageKeys (KeyChain.skipKeys chainStep
          (number - state.receivingChainMessageNumber) chain
          state.receivingChainMessageNumber (state.skippedFrom sender)).2.2
      else state.skippedFrom other := by
  rw [SessionState.skipTo]
  by_cases hle : number ≤ state.receivingChainMessageNumber
  · have hnot : ¬ (sender = other ∧ state.receivingChainMessageNumber < number) := by
      rintro ⟨-, h⟩
      omega
    rw [if_pos hle, if_neg hnot]
  · rw [if_neg hle]
    by_cases hother : sender = other
    · subst hother
      rw [if_pos ⟨rfl, by omega⟩, SessionState.skippedFrom]
      simp only [SortedMap.get?_insert_self, Option.getD_some]
    · have hnot : ¬ (sender = other ∧ state.receivingChainMessageNumber < number) := by
        rintro ⟨h, -⟩
        exact hother h
      rw [if_neg hnot, SessionState.skippedFrom, SortedMap.get?_insert_ne _ _ hother]
      rfl

theorem contains_skipTo {state : SessionState K} {chain : K} {number : Nat}
    {sender other : DevicePubkey K}
    (h : (state.skipTo chain number sender).skippedKeys.contains other = true) :
    other = sender ∨ state.skippedKeys.contains other = true := by
  by_cases hother : sender = other
  · exact Or.inl hother.symm
  · refine Or.inr ?_
    rw [SessionState.skipTo] at h
    split at h
    · exact h
    · rw [SortedMap.contains] at h
      simp only at h
      rwa [SortedMap.get?_insert_ne _ _ hother] at h

variable {secrets : Nat → K} {shared : K} {n q : Nat} {reach : Nat → Nat}
  {accepted : Nat → Nat → Prop} {state : SessionState K}

theorem RetainedKeys.mono (h : RetainedKeys secrets shared q reach accepted state)
    {reach' : Nat → Nat} {accepted' : Nat → Nat → Prop}
    (hreach : ∀ c, c + 2 ≤ q → c % 2 = q % 2 → reach c ≤ reach' c)
    (haccepted : ∀ c p, c + 2 ≤ q → c % 2 = q % 2 → p < reach c → accepted' c p →
      accepted c p) :
    RetainedKeys secrets shared q reach' accepted' state where
  chain := h.chain
  key := by
    intro c number key hc hparity hget
    obtain ⟨p, hp, hnumber, hkey, hnot⟩ := h.key c number key hc hparity hget
    exact ⟨p, lt_of_lt_of_le hp (hreach c hc hparity), hnumber, hkey,
      fun hacc => hnot (haccepted c p hc hparity hp hacc)⟩

theorem RetainedKeys.congr (h : RetainedKeys secrets shared q reach accepted state)
    {secrets' : Nat → K} (hagree : ∀ i < n, secrets i = secrets' i)
    {reach' : Nat → Nat} {accepted' : Nat → Nat → Prop} (hq : q < n)
    (hreach : ∀ c < n, reach c = reach' c) (haccepted : ∀ c < n, accepted c = accepted' c) :
    RetainedKeys secrets' shared q reach' accepted' state where
  chain := by
    intro sender hcontains
    obtain ⟨c, hc, hparity, hsender⟩ := h.chain sender hcontains
    exact ⟨c, hc, hparity, hsender.trans (pubkey_congr hagree (by omega))⟩
  key := by
    intro c number key hc hparity hget
    rw [← pubkey_congr hagree (by omega : c < n)] at hget
    obtain ⟨p, hp, hnumber, hkey, hnot⟩ := h.key c number key hc hparity hget
    rw [hreach c (by omega)] at hp
    rw [haccepted c (by omega)] at hnot
    exact ⟨p, hp, hnumber, hkey.trans (messageKey_congr hagree shared (by omega)), hnot⟩

theorem RetainedKeys.of_skippedKeys (h : RetainedKeys secrets shared q reach accepted state)
    {state' : SessionState K} (heq : state'.skippedKeys = state.skippedKeys) :
    RetainedKeys secrets shared q reach accepted state' where
  chain := by
    rw [heq]
    exact h.chain
  key := by
    intro c number key hc hparity hget
    rw [SessionState.skippedFrom, heq] at hget
    exact h.key c number key hc hparity hget

/-- Using a retained key removes it and nothing else. -/
theorem RetainedKeys.consume (hdist : Distinct secrets n)
    (h : RetainedKeys secrets shared q reach accepted state) {c p : Nat} (hc : c + 2 ≤ q)
    (hparity : c % 2 = q % 2) (hn : q < n) :
    RetainedKeys secrets shared q reach
      (fun d x => accepted d x ∨ (d = c ∧ x = p))
      (state.consume (p % 2 ^ 32) (pubkey secrets c)) where
  chain := by
    intro sender hcontains
    rcases contains_consume hcontains with rfl | hcontains
    · exact ⟨c, hc, hparity, rfl⟩
    · exact h.chain sender hcontains
  key := by
    intro d number key hd hdparity hget
    rw [skippedFrom_consume] at hget
    split at hget
    · rename_i hsender
      obtain rfl := hdist.inj c d (by omega) (by omega) hsender
      rw [SortedMap.get?_erase] at hget
      split at hget
      · cases hget
      · rename_i hne
        obtain ⟨x, hx, hnumber, hkey, hnot⟩ := h.key c number key hd hdparity hget
        refine ⟨x, hx, hnumber, hkey, ?_⟩
        rintro (hacc | ⟨-, rfl⟩)
        · exact hnot hacc
        · exact hne hnumber
    · rename_i hsender
      obtain ⟨x, hx, hnumber, hkey, hnot⟩ := h.key d number key hd hdparity hget
      refine ⟨x, hx, hnumber, hkey, ?_⟩
      rintro (hacc | ⟨rfl, -⟩)
      · exact hnot hacc
      · exact hsender rfl

omit [LinearOrder K] in
/-- The keys held while skipping from position `received`, before pruning. -/
theorem get?_skipKeys_honest (secrets : Nat → K) (shared : K) (c received number x : Nat)
    (stored : SortedMap Nat K) :
    (KeyChain.skipKeys chainStep (number - received % 2 ^ 32)
        (chainKey secrets shared c received) (received % 2 ^ 32) stored).2.2.get? x =
      if received % 2 ^ 32 ≤ x ∧ x < number then
        some (messageKey secrets shared c (received + (x - received % 2 ^ 32)))
      else stored.get? x := by
  rw [KeyChain.get?_skipKeys, chainKey, KeyChain.messageKey_chainKey]
  by_cases hx : received % 2 ^ 32 ≤ x ∧ x < number
  · rw [if_pos hx, if_pos (by omega)]
    rfl
  · rw [if_neg hx, if_neg (by omega)]

/-- Skipping the receiving chain retains keys of positions it passes. -/
theorem RetainedKeys.skipTo (hdist : Distinct secrets n)
    (h : RetainedKeys secrets shared q reach accepted state) {c received number : Nat}
    (hc : c + 2 = q) (hn : q < n)
    (hreceived : state.receivingChainMessageNumber = received % 2 ^ 32)
    (hreach : reach c = received) (haccepted : ∀ p, accepted c p → p < received)
    (hnumber : number < 2 ^ 32) :
    RetainedKeys secrets shared q
      (fun d => if d = c then received + (number - received % 2 ^ 32) else reach d) accepted
      (state.skipTo (chainKey secrets shared c received) number (pubkey secrets c)) where
  chain := by
    intro sender hcontains
    rcases contains_skipTo hcontains with rfl | hcontains
    · exact ⟨c, by omega, by omega, rfl⟩
    · exact h.chain sender hcontains
  key := by
    intro d x key hd hdparity hget
    rw [skippedFrom_skipTo, hreceived] at hget
    by_cases hdc : d = c
    · subst hdc
      have hold : ∀ value, (state.skippedFrom (pubkey secrets d)).get? x = some value →
          ∃ p < received + (number - received % 2 ^ 32), p % 2 ^ 32 = x ∧
            value = messageKey secrets shared d p ∧ ¬ accepted d p := by
        intro value hvalue
        obtain ⟨p, hp, hrest⟩ := h.key d x value hd hdparity hvalue
        exact ⟨p, by omega, hrest⟩
      rw [if_pos rfl]
      split at hget
      · rw [pruneSkippedMessageKeys, SortedMap.get?_pruneTo] at hget
        split at hget
        · rw [get?_skipKeys_honest] at hget
          split at hget
          · rename_i hx
            cases hget
            refine ⟨received + (x - received % 2 ^ 32), by omega, by omega, rfl, ?_⟩
            intro hacc
            have := haccepted _ hacc
            omega
          · exact hold key hget
        · cases hget
      · exact hold key hget
    · have hsender : ¬ (pubkey secrets c = pubkey secrets d ∧
          received % 2 ^ 32 < number) := by
        rintro ⟨hsender, -⟩
        exact hdc (hdist.inj c d (by omega) (by omega) hsender).symm
      rw [if_neg hsender] at hget
      rw [if_neg hdc]
      exact h.key d x key hd hdparity hget

/-- Accepting position `p` of the receiving chain. -/
theorem RetainedKeys.forward (hdist : Distinct secrets n)
    (h : RetainedKeys secrets shared q reach accepted state) {c received p : Nat}
    (hc : c + 2 = q) (hn : q < n)
    (hreceived : state.receivingChainMessageNumber = received % 2 ^ 32)
    (hreach : reach c = received) (haccepted : ∀ y, accepted c y → y < received)
    (hp : received + (p % 2 ^ 32 - received % 2 ^ 32) = p) :
    RetainedKeys secrets shared q (fun d => if d = c then p + 1 else reach d)
      (fun d y => accepted d y ∨ (d = c ∧ y = p))
      (state.forward (chainKey secrets shared c received) (p % 2 ^ 32)
        (pubkey secrets c)) := by
  have hskip := h.skipTo hdist hc hn hreceived hreach haccepted
    (Nat.mod_lt p (by decide : 2 ^ 32 > 0))
  rw [hp] at hskip
  refine (hskip.mono ?_ ?_).of_skippedKeys rfl
  · intro d _ _
    split
    · exact Nat.le_succ p
    · exact le_rfl
  · rintro d y _ _ hy (hacc | ⟨rfl, rfl⟩)
    · exact hacc
    · rw [if_pos rfl] at hy
      exact absurd hy (lt_irrefl _)

/-- A ratchet step leaves the retained keys as they are. -/
theorem RetainedKeys.raise (h : RetainedKeys secrets shared q reach accepted state)
    (hnext : state.skippedFrom (pubkey secrets q) = SortedMap.empty) :
    RetainedKeys secrets shared (q + 2) reach accepted state where
  chain := by
    intro sender hcontains
    obtain ⟨c, hc, hparity, hsender⟩ := h.chain sender hcontains
    exact ⟨c, by omega, by omega, hsender⟩
  key := by
    intro c number key hc hparity hget
    by_cases heq : c = q
    · rw [heq, hnext] at hget
      cases hget
    · exact h.key c number key (by omega) (by omega) hget

/-- Nothing is pruned while at most `MAX_SKIP` positions are missing. -/
theorem RetainsAll.skipTo (h : RetainedKeys secrets shared q reach accepted state)
    {c received number : Nat} (hc : c + 2 = q)
    (hall : RetainsAll secrets shared c received (accepted c) state)
    (hreceived : state.receivingChainMessageNumber = received % 2 ^ 32)
    (hreach : reach c = received) (haccepted : ∀ p, accepted c p → p < received)
    (hle : received ≤ number) (hnumber : number < 2 ^ 32)
    (hmissing : ∀ s : Finset Nat, (∀ x ∈ s, x < number ∧ ¬ accepted c x) → s.card ≤ MAX_SKIP) :
    RetainsAll secrets shared c number (accepted c)
      (state.skipTo (chainKey secrets shared c received) number (pubkey secrets c)) := by
  have hmod : received % 2 ^ 32 = received := Nat.mod_eq_of_lt (by omega)
  intro p hp hnot
  rw [skippedFrom_skipTo, hreceived]
  rcases hle.eq_or_lt with rfl | hlt
  · rw [if_neg (by omega)]
    exact hall p hp hnot
  · have hkeys : ∀ x value, (KeyChain.skipKeys chainStep (number - received % 2 ^ 32)
        (chainKey secrets shared c received) (received % 2 ^ 32)
        (state.skippedFrom (pubkey secrets c))).2.2.get? x = some value →
          x < number ∧ ¬ accepted c x := by
      intro x value hget
      rw [get?_skipKeys_honest] at hget
      split at hget
      · refine ⟨by omega, ?_⟩
        intro hacc
        have := haccepted x hacc
        omega
      · obtain ⟨y, hy, hnum, -, hyacc⟩ := h.key c x value (by omega) (by omega) hget
        obtain rfl : y = x := by omega
        exact ⟨by omega, hyacc⟩
    rw [if_pos ⟨rfl, by omega⟩, pruneSkippedMessageKeys, SortedMap.pruneTo_of_le,
      get?_skipKeys_honest]
    · split
      · rw [hmod, Nat.add_sub_cancel' (by omega)]
      · exact hall p (by omega) hnot
    · rw [← SortedMap.length_keys, ← List.toFinset_card_of_nodup (SortedMap.nodup_keys _)]
      apply hmissing
      intro x hx
      obtain ⟨value, hvalue⟩ := SortedMap.mem_keys.mp (List.mem_toFinset.mp hx)
      exact hkeys x value hvalue

theorem RetainsAll.mono {c reach reach' : Nat} {accepted accepted' : Nat → Prop}
    {state state' : SessionState K} (h : RetainsAll secrets shared c reach accepted state)
    (hreach : reach' ≤ reach) (haccepted : ∀ p < reach', accepted p → accepted' p)
    (hskipped : state'.skippedFrom (pubkey secrets c) = state.skippedFrom (pubkey secrets c)) :
    RetainsAll secrets shared c reach' accepted' state' := by
  intro p hp hnot
  rw [hskipped]
  exact h p (lt_of_lt_of_le hp hreach) (fun hacc => hnot (haccepted p hp hacc))

theorem RetainsAll.congr {c reach : Nat} {accepted : Nat → Prop}
    (h : RetainsAll secrets shared c reach accepted state) {secrets' : Nat → K}
    (hagree : ∀ i < n, secrets i = secrets' i) (hc : c + 2 < n) :
    RetainsAll secrets' shared c reach accepted state := by
  intro p hp hnot
  rw [← pubkey_congr hagree (by omega), ← messageKey_congr hagree shared hc]
  exact h p hp hnot

/-- Using the key of position `p` leaves the keys of the other positions. -/
theorem RetainsAll.consume {c reach p : Nat} {accepted : Nat → Prop}
    (h : RetainsAll secrets shared c reach accepted state) (hp : p < 2 ^ 32) :
    RetainsAll secrets shared c reach (fun y => accepted y ∨ y = p)
      (state.consume (p % 2 ^ 32) (pubkey secrets c)) := by
  intro y hy hnot
  rw [not_or] at hnot
  rw [skippedFrom_consume, if_pos rfl, SortedMap.get?_erase, Nat.mod_eq_of_lt hp,
    if_neg (fun heq => hnot.2 heq.symm)]
  exact h y hy hnot.1

/-- Accepting position `p` of the receiving chain retains all positions it passes. -/
theorem RetainsAll.forward (h : RetainedKeys secrets shared q reach accepted state)
    {c received p : Nat} (hc : c + 2 = q)
    (hall : RetainsAll secrets shared c received (accepted c) state)
    (hreceived : state.receivingChainMessageNumber = received % 2 ^ 32)
    (hreach : reach c = received) (haccepted : ∀ y, accepted c y → y < received)
    (hle : received ≤ p) (hp : p < 2 ^ 32)
    (hmissing : ∀ s : Finset Nat, (∀ x ∈ s, x < p ∧ ¬ accepted c x) → s.card ≤ MAX_SKIP) :
    RetainsAll secrets shared c (p + 1) (fun y => accepted c y ∨ y = p)
      (state.forward (chainKey secrets shared c received) (p % 2 ^ 32) (pubkey secrets c)) := by
  have hskip := RetainsAll.skipTo h hc hall hreceived hreach haccepted hle hp hmissing
  intro y hy hnot
  rw [not_or] at hnot
  rw [Nat.mod_eq_of_lt hp]
  exact hskip y (by omega) hnot.1

/-! What an accepted message does. -/

variable {session : Session K} {pos : Position}

theorem AtPhase.consume (hat : AtPhase secrets shared pos state) (number : Nat)
    (sender : DevicePubkey K) : AtPhase secrets shared pos (state.consume number sender) :=
  { hat with }

theorem AtPhase.skipTo (hat : AtPhase secrets shared pos state) {c number : Nat}
    (hc : c + 2 = pos.phase) (hnumber : number < 2 ^ 32) :
    AtPhase secrets shared
      { pos with received := pos.received + (number - pos.received % 2 ^ 32) }
      (state.skipTo (chainKey secrets shared c pos.received) number (pubkey secrets c)) := by
  have hback : back pos.phase 2 = some c := back_eq_some.mpr hc
  have hchain : state.receivingChainKey = some (chainKey secrets shared c pos.received) := by
    rw [hat.receivingChain, hback]
    rfl
  have hreceiving : (state.skipTo (chainKey secrets shared c pos.received) number
      (pubkey secrets c)).receivingChainKey = (back pos.phase 2).map (fun d =>
        chainKey secrets shared d (pos.received + (number - pos.received % 2 ^ 32))) := by
    rw [skipTo_receivingChainKey hchain, hat.receivingNumber, hback, Option.map_some, chainKey,
      KeyChain.chainKey_chainKey]
    rfl
  have hcount : (state.skipTo (chainKey secrets shared c pos.received) number
      (pubkey secrets c)).receivingChainMessageNumber =
        (pos.received + (number - pos.received % 2 ^ 32)) % 2 ^ 32 := by
    rw [SessionState.skipTo]
    split
    · rename_i hle
      rw [hat.receivingNumber] at hle ⊢
      omega
    · rename_i hle
      rw [hat.receivingNumber] at hle
      change number = _
      omega
  have hrest : ∀ next : SessionState K,
      next = state.skipTo (chainKey secrets shared c pos.received) number (pubkey secrets c) →
      next.metadataPrivacyVersion = state.metadataPrivacyVersion ∧
      next.rootKey = state.rootKey ∧
      next.theirCurrentNostrPublicKey = state.theirCurrentNostrPublicKey ∧
      next.theirNextNostrPublicKey = state.theirNextNostrPublicKey ∧
      next.ourPreviousNostrKey = state.ourPreviousNostrKey ∧
      next.ourCurrentNostrKey = state.ourCurrentNostrKey ∧
      next.ourNextNostrKey = state.ourNextNostrKey ∧
      next.sendingChainKey = state.sendingChainKey ∧
      next.sendingChainMessageNumber = state.sendingChainMessageNumber ∧
      next.previousSendingChainMessageCount = state.previousSendingChainMessageCount := by
    rintro next rfl
    rw [SessionState.skipTo]
    split
    · exact ⟨rfl, rfl, rfl, rfl, rfl, rfl, rfl, rfl, rfl, rfl⟩
    · exact ⟨rfl, rfl, rfl, rfl, rfl, rfl, rfl, rfl, rfl, rfl⟩
  obtain ⟨h1, h2, h3, h4, h5, h6, h7, h8, h9, h10⟩ := hrest _ rfl
  exact ⟨h1.trans hat.version, h2.trans hat.rootKey, h3.trans hat.theirCurrent,
    h4.trans hat.theirNext, h5.trans hat.ourPrevious, h6.trans hat.ourCurrent,
    h7.trans hat.ourNext, hreceiving, h8.trans hat.sendingChain, h9.trans hat.sendingNumber,
    hcount, h10.trans hat.previousCount⟩

/-- Accepting position `p` of the receiving chain moves the chain past it. -/
theorem AtPhase.forward (hat : AtPhase secrets shared pos state) {c p : Nat}
    (hc : c + 2 = pos.phase) (hp : pos.received + (p % 2 ^ 32 - pos.received % 2 ^ 32) = p) :
    AtPhase secrets shared { pos with received := p + 1 }
      (state.forward (chainKey secrets shared c pos.received) (p % 2 ^ 32)
        (pubkey secrets c)) := by
  have hskip := hat.skipTo hc (Nat.mod_lt p (by decide))
  rw [hp] at hskip
  have hback : back pos.phase 2 = some c := back_eq_some.mpr hc
  refine { hskip with receivingChain := ?_, receivingNumber := ?_ }
  · change some _ = (back pos.phase 2).map _
    rw [hback, Option.map_some, hat.receivingNumber, chainKey, chainKey,
      KeyChain.chainKey_chainKey, ← Nat.add_assoc, hp]
  · change u32Succ _ = _
    rw [hskip.receivingNumber, u32Succ, Nat.mod_add_mod]

section Receive

variable (hlaws : SymbolicLaws K) (hdist : Distinct secrets n)
  (hat : AtPhase secrets shared pos session.state)
  (hret : RetainedKeys secrets shared pos.phase reach accepted session.state)
  (hn : pos.phase + 1 < n) {c p previous : Nat} {payload : T} {envelope : MessageEnvelope K T}
  (henv : HonestEnvelope secrets shared c p previous payload envelope) (hc : c + 2 < n)
  {rng rng' : Rng K} {plan : ReceivePlan K T}

include hat in
private theorem receivingChain_eq {d : Nat} (hd : d + 2 = pos.phase) :
    session.state.receivingChainKey = some (chainKey secrets shared d pos.received) := by
  rw [hat.receivingChain, back_eq_some.mpr hd]
  rfl

include hdist hret in
/-- No key is retained for the chain the next ratchet step starts. -/
private theorem not_contains_next {d : Nat} (hd : pos.phase ≤ d + 1) (hdn : d < n) :
    session.state.skippedKeys.contains (pubkey secrets d) = false := by
  rw [Bool.eq_false_iff]
  intro hcontains
  obtain ⟨e, he, -, hsender⟩ := hret.chain _ hcontains
  have := hdist.inj d e hdn (by omega) hsender
  omega

include hdist hret in
theorem skippedFrom_retired {mid : SessionState K} (hphase : c = pos.phase)
    (hcn : c < n)
    (hmid : mid.skippedKeys = retiredKeys secrets shared pos previous session.state) :
    mid.skippedFrom (pubkey secrets c) = SortedMap.empty := by
  apply skippedFrom_of_not_contains
  rw [hmid, retiredKeys]
  cases hback : back pos.phase 2 with
  | none => exact not_contains_next hdist hret (by omega) hcn
  | some d =>
      have hd := back_eq_some.mp hback
      rw [Bool.eq_false_iff]
      intro hcontains
      rcases contains_skipTo hcontains with hsender | hcontains
      · have := hdist.inj c d hcn (by omega) hsender
        omega
      · rw [not_contains_next hdist hret (by omega) hcn] at hcontains
        cases hcontains

include hlaws hdist hat hret hn henv hc

/-- An accepted message is a retained one of the receiving chain or of the chain
before it, a later one of the receiving chain, or one of the next chain. -/
theorem planReceive_cases (hfresh : ValidSecret rng.secretKeys.head)
    (h : session.planReceive envelope rng = (.ok plan, rng')) :
    plan.sender = pubkey secrets c ∧ plan.payload = payload ∧
      ((c + 2 ≤ pos.phase ∧ pos.phase ≤ c + 4 ∧ c % 2 = pos.phase % 2 ∧ rng' = rng ∧
          p < reach c ∧ ¬ accepted c p ∧
          plan.nextState = session.state.consume (p % 2 ^ 32) (pubkey secrets c)) ∨
        (c + 2 = pos.phase ∧ rng' = rng ∧
          pos.received + (p % 2 ^ 32 - pos.received % 2 ^ 32) = p ∧
          plan.nextState = session.state.forward (chainKey secrets shared c pos.received)
            (p % 2 ^ 32) (pubkey secrets c)) ∨
        (c = pos.phase ∧ rng' = { rng with secretKeys := rng.secretKeys.tail } ∧
          RetirementGap pos previous ∧ p % 2 ^ 32 = p ∧ ∃ mid,
            AtPhase (draw secrets (c + 3) rng.secretKeys.head) shared ⟨c + 2, 0, pos.sent, 0⟩
              mid ∧
            mid.skippedKeys = retiredKeys secrets shared pos previous session.state ∧
            plan.nextState = mid.forward
              (chainKey (draw secrets (c + 3) rng.secretKeys.head) shared c 0) (p % 2 ^ 32)
              (pubkey secrets c))) := by
  obtain ⟨hsender, -, hpath⟩ :=
    (planReceive_eq_ok hlaws hdist hat hn henv (by omega)).mp h
  rcases hpath with ⟨hphase, hrng, hdecrypt⟩ | ⟨rfl, mid, hratchet, hdecrypt⟩
  · obtain ⟨d, hd⟩ : ∃ d, d + 2 = pos.phase := ⟨pos.phase - 2, by omega⟩
    rcases (ratchetDecrypt_eq_ok (receivingChain_eq hat hd)).mp hdecrypt with
      ⟨key, hget, hopen, hnext⟩ | ⟨-, -, hopen, hnext⟩
    · obtain ⟨rfl, hpayload⟩ := (openCiphertext_honest hlaws henv).mp hopen
      obtain ⟨x, hx, -, hkey, hnot⟩ := hret.key c _ _ (by omega) (by omega) hget
      obtain ⟨-, rfl⟩ := messageKey_inj hlaws hdist hc hc hkey
      exact ⟨hsender, hpayload, Or.inl ⟨by omega, by omega, by omega, hrng, hx, hnot, hnext⟩⟩
    · obtain ⟨hkey, hpayload⟩ := (openCiphertext_honest hlaws henv).mp hopen
      rw [chainKey, KeyChain.messageKey_chainKey, hat.receivingNumber] at hkey
      obtain ⟨rfl, hp⟩ := messageKey_inj hlaws hdist (by omega) hc hkey
      exact ⟨hsender, hpayload, Or.inr (Or.inl ⟨hd, hrng, hp, hnext⟩)⟩
  · have hgap := ratchetForHeader_gap hdist hat hc hratchet
    obtain ⟨mid', hratchet', hmid, hkeys⟩ :=
      ratchetForHeader_honest hlaws hdist hat hc hfresh p previous hgap
    rw [hratchet'] at hratchet
    cases hratchet
    have hagree : ∀ i < pos.phase + 3,
        secrets i = draw secrets (pos.phase + 3) rng.secretKeys.head i :=
      fun i hi => draw_of_lt secrets rng.secretKeys.head hi
    have hchain : mid.receivingChainKey =
        some (chainKey (draw secrets (pos.phase + 3) rng.secretKeys.head) shared pos.phase 0) := by
      rw [hmid.receivingChain, back_eq_some.mpr (rfl : pos.phase + 2 = pos.phase + 2)]
      rfl
    have hempty := skippedFrom_retired hdist hret rfl (by omega) hkeys
    rcases (ratchetDecrypt_eq_ok hchain).mp hdecrypt with
      ⟨key, hget, -⟩ | ⟨-, -, hopen, hnext⟩
    · rw [hempty] at hget
      cases hget
    · obtain ⟨hkey, hpayload⟩ := (openCiphertext_honest hlaws henv).mp hopen
      rw [hmid.receivingNumber] at hkey
      change messageKey _ shared pos.phase (p % 2 ^ 32) = _ at hkey
      rw [← messageKey_congr hagree shared (by omega)] at hkey
      obtain ⟨-, hp⟩ := messageKey_inj hlaws hdist hc hc hkey
      exact ⟨hsender, hpayload, Or.inr (Or.inr ⟨rfl, rfl, hgap, hp, mid, hmid, hkeys, hnext⟩)⟩

omit hret in
/-- A message whose key is retained is accepted while its header can be opened. -/
theorem planReceive_retained (hphase : c + 2 = pos.phase ∨ c + 4 = pos.phase)
    (hget : (session.state.skippedFrom (pubkey secrets c)).get? (p % 2 ^ 32) =
      some (messageKey secrets shared c p)) :
    session.planReceive envelope rng = (.ok ⟨session.state.consume (p % 2 ^ 32)
      (pubkey secrets c), payload, pubkey secrets c⟩, rng) := by
  obtain ⟨d, hd⟩ : ∃ d, d + 2 = pos.phase := ⟨pos.phase - 2, by omega⟩
  refine (planReceive_eq_ok hlaws hdist hat hn henv (by omega)).mpr
    ⟨rfl, ?_, Or.inl ⟨hphase, rfl, ?_⟩⟩
  · exact (matchesSender_honest hdist hat (by omega) (by omega)).mpr
      (Or.inr (Or.inr (contains_of_get?_skippedFrom hget)))
  · exact (ratchetDecrypt_eq_ok (receivingChain_eq hat hd)).mpr
      (Or.inl ⟨_, hget, (openCiphertext_honest hlaws henv).mpr ⟨rfl, rfl⟩, rfl⟩)

omit hret hc in
/-- A later message of the receiving chain is accepted inside the skip window. -/
theorem planReceive_later (hphase : c + 2 = pos.phase)
    (hnone : (session.state.skippedFrom (pubkey secrets c)).get? (p % 2 ^ 32) = none)
    (hskip : p % 2 ^ 32 - pos.received % 2 ^ 32 ≤ MAX_SKIP)
    (hp : pos.received + (p % 2 ^ 32 - pos.received % 2 ^ 32) = p) :
    session.planReceive envelope rng = (.ok ⟨session.state.forward
      (chainKey secrets shared c pos.received) (p % 2 ^ 32) (pubkey secrets c), payload,
      pubkey secrets c⟩, rng) := by
  refine (planReceive_eq_ok hlaws hdist hat hn henv (by omega)).mpr
    ⟨rfl, ?_, Or.inl ⟨Or.inl hphase, rfl, ?_⟩⟩
  · exact (matchesSender_honest hdist hat (by omega) (by omega)).mpr (Or.inl hphase)
  · refine (ratchetDecrypt_eq_ok (receivingChain_eq hat hphase)).mpr
      (Or.inr ⟨hnone, ?_, ?_, rfl⟩)
    · rw [hat.receivingNumber]
      exact hskip
    · rw [openCiphertext_honest hlaws henv, hat.receivingNumber, chainKey,
        KeyChain.messageKey_chainKey]
      change messageKey secrets shared c
        (pos.received + (p % 2 ^ 32 - pos.received % 2 ^ 32)) = _ ∧ _
      rw [hp]
      exact ⟨rfl, rfl⟩

/-- A message of the next chain is accepted when the chain it retires and its own
number are inside the skip window. -/
theorem planReceive_next (hphase : c = pos.phase) (hfresh : ValidSecret rng.secretKeys.head)
    (hgap : RetirementGap pos previous) (hp : p % 2 ^ 32 = p) (hskip : p ≤ MAX_SKIP) :
    ∃ plan, session.planReceive envelope rng =
        (.ok plan, { rng with secretKeys := rng.secretKeys.tail }) ∧
      plan.payload = payload := by
  subst hphase
  obtain ⟨mid, hratchet, hmid, hkeys⟩ :=
    ratchetForHeader_honest hlaws hdist hat hc hfresh p previous hgap
  have hagree : ∀ i < pos.phase + 3,
      secrets i = draw secrets (pos.phase + 3) rng.secretKeys.head i :=
    fun i hi => draw_of_lt secrets rng.secretKeys.head hi
  have hchain : mid.receivingChainKey =
      some (chainKey (draw secrets (pos.phase + 3) rng.secretKeys.head) shared pos.phase 0) := by
    rw [hmid.receivingChain, back_eq_some.mpr (rfl : pos.phase + 2 = pos.phase + 2)]
    rfl
  have hzero : mid.receivingChainMessageNumber = 0 := hmid.receivingNumber
  refine ⟨⟨mid.forward (chainKey (draw secrets (pos.phase + 3) rng.secretKeys.head) shared
    pos.phase 0) (p % 2 ^ 32) (pubkey secrets pos.phase), payload, pubkey secrets pos.phase⟩,
    ?_, rfl⟩
  refine (planReceive_eq_ok hlaws hdist hat hn henv (by omega)).mpr
    ⟨rfl, ?_, Or.inr ⟨rfl, mid, hratchet, ?_⟩⟩
  · exact (matchesSender_honest hdist hat (by omega) (by omega)).mpr (Or.inr (Or.inl rfl))
  · refine (ratchetDecrypt_eq_ok hchain).mpr (Or.inr ⟨?_, ?_, ?_, rfl⟩)
    · rw [skippedFrom_retired hdist hret rfl (by omega) hkeys]
      rfl
    · rw [hzero]
      change p % 2 ^ 32 - 0 ≤ MAX_SKIP
      omega
    · rw [openCiphertext_honest hlaws henv, hzero]
      change messageKey _ shared pos.phase (p % 2 ^ 32) = _ ∧ _
      rw [hp, ← messageKey_congr hagree shared (by omega)]
      exact ⟨rfl, rfl⟩

end Receive

end NostrDoubleRatchet
