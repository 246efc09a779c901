import Mathlib.Order.Interval.Finset.Nat
import NostrDoubleRatchet.SenderKey.State
import NostrDoubleRatchet.Symbolic

/-!
What a sender-key receiver accepts over a whole run. A receiver starts from the
sender's chain and is handed the sender's messages in any order, with losses
and repetitions. The retained keys are then exactly the outstanding numbers
that stayed among the largest ones at every forward step.
-/

namespace NostrDoubleRatchet.SenderKeyDelivery

variable {K T : Type} [Primitives K T]

/-- The states a sender passes through from `start`. -/
inductive SenderRun (start : SenderKeyState K) : SenderKeyState K → Prop where
  | start : SenderRun start start
  | encrypt {state : SenderKeyState K} {nonce : K} {plaintext : T}
      {plan : SenderKeyEncryptPlan K T} : SenderRun start state →
      state.planEncrypt nonce plaintext = .ok plan →
      SenderRun start (state.applyEncrypt plan)

/-- `message` is what some sender from `start` made of `plaintext`. -/
def SentBy (start : SenderKeyState K) (message : SenderKeyMessageContent T)
    (plaintext : T) : Prop :=
  ∃ state nonce plan, SenderRun start state ∧
    state.planEncrypt nonce plaintext = .ok plan ∧
    message = ⟨plan.keyId, plan.messageNumber, plan.ciphertext⟩

/-- The receiver and the numbers it has accepted so far. -/
structure Reception (K : Type) where
  state : SenderKeyState K
  accepted : List Nat

def Reception.deliver (r : Reception K) (message : SenderKeyMessageContent T) : Reception K :=
  match r.state.planDecrypt message with
  | .ok plan => ⟨r.state.applyDecrypt plan, message.messageNumber :: r.accepted⟩
  | .error _ => r

def receive (start : SenderKeyState K) (messages : List (SenderKeyMessageContent T)) :
    Reception K :=
  messages.foldl Reception.deliver ⟨start, []⟩

/-- The numbers from `first` on that were skipped and not consumed. -/
def Reception.outstanding (r : Reception K) (first : Nat) : Finset Nat :=
  (Finset.Ico first r.state.iteration).filter (· ∉ r.accepted)

/-- How many outstanding numbers are larger than `n`. -/
def Reception.outstandingAbove (r : Reception K) (first n : Nat) : Nat :=
  ((r.outstanding first).filter (n < ·)).card

/-- At every forward step that left `n` behind, `n` was among the
`SENDER_KEY_MAX_STORED_SKIPPED_KEYS` largest outstanding numbers. -/
def KeptSince (start : SenderKeyState K) (messages : List (SenderKeyMessageContent T))
    (n : Nat) : Prop :=
  ∀ before message after, messages = before ++ message :: after →
    (receive start before).state.iteration <
      (receive start (before ++ [message])).state.iteration →
    n < (receive start (before ++ [message])).state.iteration →
    (receive start (before ++ [message])).outstandingAbove start.iteration n <
      SENDER_KEY_MAX_STORED_SKIPPED_KEYS

theorem receive_snoc (start : SenderKeyState K) (messages : List (SenderKeyMessageContent T))
    (message : SenderKeyMessageContent T) :
    receive start (messages ++ [message]) = (receive start messages).deliver message := by
  simp [receive]

theorem keptSince_snoc (start : SenderKeyState K)
    (messages : List (SenderKeyMessageContent T)) (message : SenderKeyMessageContent T)
    (n : Nat) :
    KeptSince start (messages ++ [message]) n ↔
      KeptSince start messages n ∧
      ((receive start messages).state.iteration <
          (receive start (messages ++ [message])).state.iteration →
        n < (receive start (messages ++ [message])).state.iteration →
        (receive start (messages ++ [message])).outstandingAbove start.iteration n <
          SENDER_KEY_MAX_STORED_SKIPPED_KEYS) := by
  constructor
  · intro h
    refine ⟨?_, h messages message [] (by simp)⟩
    intro before middle after heq
    exact h before middle (after ++ [message]) (by simp [heq])
  · rintro ⟨hold, hlast⟩ before middle after heq
    rcases List.eq_nil_or_concat after with rfl | ⟨init, last, rfl⟩
    · obtain ⟨rfl, hmid⟩ := List.append_inj' heq rfl
      cases hmid
      exact hlast
    · have hsplit : messages = before ++ middle :: init := by
        have h2 : messages ++ [message] = (before ++ middle :: init) ++ [last] := by
          simpa using heq
        exact (List.append_inj' h2 rfl).1
      exact hold before middle init hsplit

/-- Staying among the largest passes to larger numbers. -/
theorem KeptSince.mono {start : SenderKeyState K}
    {messages : List (SenderKeyMessageContent T)} {n m : Nat}
    (h : KeptSince start messages n) (hle : n ≤ m) : KeptSince start messages m := by
  intro before message after heq hforward hlt
  refine lt_of_le_of_lt ?_ (h before message after heq hforward (by omega))
  apply Finset.card_le_card
  intro x hx
  simp only [Finset.mem_filter] at hx ⊢
  exact ⟨hx.1, by omega⟩

/-- A sender's message carries the key id and chain key of its position. -/
theorem SentBy.spec {start : SenderKeyState K} {message : SenderKeyMessageContent T}
    {plaintext : T} (hcrypt : Nip44RoundTrip K) (h : SentBy start message plaintext) :
    message.keyId = start.keyId ∧ start.iteration ≤ message.messageNumber ∧
      message.messageNumber < u32Max ∧
      decryptWithMessageKey (start.forwardKey message.messageNumber) message.ciphertext =
        .ok plaintext := by
  obtain ⟨state, nonce, plan, hrun, hplan, rfl⟩ := h
  have hstate : state.keyId = start.keyId ∧ start.iteration ≤ state.iteration ∧
      state.chainKey = KeyChain.chainKey deriveMessageKey start.chainKey
        (state.iteration - start.iteration) := by
    clear hplan
    induction hrun with
    | start => simp
    | encrypt _ hplan ih =>
        obtain ⟨hid, hle, hchain⟩ := ih
        obtain ⟨-, -, -, -, hnext⟩ := SenderKeyState.planEncrypt_eq_ok hplan
        rw [SenderKeyState.applyEncrypt, hnext]
        refine ⟨hid, Nat.le_succ_of_le hle, ?_⟩
        simp only [Nat.succ_sub hle, KeyChain.chainKey_succ, ← hchain]
  obtain ⟨hid, hle, hchain⟩ := hstate
  obtain ⟨hmax, henc, hplanId, hnumber, -⟩ := SenderKeyState.planEncrypt_eq_ok hplan
  simp only [hplanId, hnumber]
  refine ⟨hid, hle, hmax, ?_⟩
  rw [decryptWithMessageKey, mapError_eq_ok]
  apply hcrypt _ nonce
  rw [SenderKeyState.forwardKey, KeyChain.messageKey, ← hchain]
  exact henc

/-- The receiver's state after `messages`, in terms of what was accepted. -/
structure ReceptionInvariant (start : SenderKeyState K)
    (messages : List (SenderKeyMessageContent T)) : Prop where
  keyId : (receive start messages).state.keyId = start.keyId
  le : start.iteration ≤ (receive start messages).state.iteration
  chainKey : (receive start messages).state.chainKey =
    KeyChain.chainKey deriveMessageKey start.chainKey
      ((receive start messages).state.iteration - start.iteration)
  accepted : ∀ n ∈ (receive start messages).accepted,
    n < (receive start messages).state.iteration
  reached : ∀ before after, messages = before ++ after →
    (receive start before).state.iteration ≤ (receive start messages).state.iteration
  retained : ∀ n key, (receive start messages).state.skippedMessageKeys.get? n = some key ↔
    n ∈ (receive start messages).outstanding start.iteration ∧
      KeptSince start messages n ∧ key = start.forwardKey n

theorem ReceptionInvariant.forwardKey {start : SenderKeyState K}
    {messages : List (SenderKeyMessageContent T)} (h : ReceptionInvariant start messages)
    {n : Nat} (hle : (receive start messages).state.iteration ≤ n) :
    (receive start messages).state.forwardKey n = start.forwardKey n := by
  have hstart := h.le
  rw [SenderKeyState.forwardKey, SenderKeyState.forwardKey, h.chainKey,
    KeyChain.messageKey_chainKey]
  congr 1
  omega

theorem receptionInvariant_nil (keyId iteration : Nat) (chainKey : K) :
    ReceptionInvariant (SenderKeyState.new keyId chainKey iteration)
      ([] : List (SenderKeyMessageContent T)) where
  keyId := rfl
  le := le_rfl
  chainKey := by simp [receive]
  accepted := by simp [receive]
  reached := by
    intro before after h
    obtain ⟨rfl, -⟩ := List.append_eq_nil_iff.mp h.symm
    exact le_rfl
  retained := by simp [receive, SenderKeyState.new, Reception.outstanding]

/-- A number the chain has not passed was never pruned. -/
theorem ReceptionInvariant.keptSince {start : SenderKeyState K}
    {messages : List (SenderKeyMessageContent T)} (h : ReceptionInvariant start messages)
    {n : Nat} (hle : (receive start messages).state.iteration ≤ n) :
    KeptSince start messages n := by
  intro before message after heq _ hlt
  have hreached := h.reached (before ++ [message]) after (by simp [heq])
  omega

private theorem reached_snoc {start : SenderKeyState K}
    {messages : List (SenderKeyMessageContent T)} {message : SenderKeyMessageContent T}
    (h : ReceptionInvariant start messages)
    (hmono : (receive start messages).state.iteration ≤
      (receive start (messages ++ [message])).state.iteration) :
    ∀ before after, messages ++ [message] = before ++ after →
      (receive start before).state.iteration ≤
        (receive start (messages ++ [message])).state.iteration := by
  intro before after heq
  rcases List.eq_nil_or_concat after with rfl | ⟨init, last, rfl⟩
  · rw [List.append_nil] at heq
    rw [heq]
  · have hsplit : messages = before ++ init := by
      rw [List.concat_eq_append, ← List.append_assoc] at heq
      exact (List.append_inj' heq rfl).1
    exact (h.reached before init hsplit).trans hmono

private theorem invariant_of_rejected {start : SenderKeyState K}
    {messages : List (SenderKeyMessageContent T)} {message : SenderKeyMessageContent T}
    (h : ReceptionInvariant start messages)
    (heq : receive start (messages ++ [message]) = receive start messages) :
    ReceptionInvariant start (messages ++ [message]) := by
  refine ⟨?_, ?_, ?_, ?_, reached_snoc h (by rw [heq]), ?_⟩
  · rw [heq]
    exact h.keyId
  · rw [heq]
    exact h.le
  · rw [heq]
    exact h.chainKey
  · rw [heq]
    exact h.accepted
  · intro n key
    rw [keptSince_snoc, heq, h.retained]
    simp

private theorem invariant_of_consumed {start : SenderKeyState K}
    {messages : List (SenderKeyMessageContent T)} {message : SenderKeyMessageContent T}
    (h : ReceptionInvariant start messages)
    (hlt : message.messageNumber < (receive start messages).state.iteration)
    (heq : receive start (messages ++ [message]) =
      ⟨(receive start messages).state.consumeState message.messageNumber,
        message.messageNumber :: (receive start messages).accepted⟩) :
    ReceptionInvariant start (messages ++ [message]) := by
  have hiter : (receive start (messages ++ [message])).state.iteration =
      (receive start messages).state.iteration := by
    rw [heq]
    rfl
  refine ⟨?_, ?_, ?_, ?_, reached_snoc h hiter.ge, ?_⟩
  · rw [heq]
    exact h.keyId
  · rw [hiter]
    exact h.le
  · rw [hiter, heq]
    exact h.chainKey
  · rw [hiter, heq]
    intro n hn
    rcases List.mem_cons.mp hn with rfl | hn
    · exact hlt
    · exact h.accepted n hn
  · intro n key
    have hkept : KeptSince start (messages ++ [message]) n ↔ KeptSince start messages n := by
      rw [keptSince_snoc, hiter]
      simp
    have hout : n ∈ (receive start (messages ++ [message])).outstanding start.iteration ↔
        message.messageNumber ≠ n ∧
          n ∈ (receive start messages).outstanding start.iteration := by
      simp only [Reception.outstanding, Finset.mem_filter, hiter]
      rw [heq]
      simp only [List.mem_cons, not_or]
      tauto
    rw [hkept, hout]
    rw [heq]
    simp only [SenderKeyState.consumeState, SortedMap.get?_erase]
    by_cases hn : message.messageNumber = n
    · simp [hn]
    · rw [if_neg hn, h.retained]
      tauto

/-- After a forward step the outstanding numbers are the old ones and the ones
just skipped. -/
private theorem outstanding_forward {start : SenderKeyState K}
    {messages : List (SenderKeyMessageContent T)} {message : SenderKeyMessageContent T}
    (h : ReceptionInvariant start messages)
    (hle : (receive start messages).state.iteration ≤ message.messageNumber)
    (heq : receive start (messages ++ [message]) =
      ⟨(receive start messages).state.forwardState message.messageNumber,
        message.messageNumber :: (receive start messages).accepted⟩) (x : Nat) :
    x ∈ (receive start (messages ++ [message])).outstanding start.iteration ↔
      x ∈ (receive start messages).outstanding start.iteration ∨
        ((receive start messages).state.iteration ≤ x ∧ x < message.messageNumber) := by
  have hstart := h.le
  have haccepted := h.accepted x
  rw [heq]
  simp only [Reception.outstanding, SenderKeyState.forwardState, Finset.mem_filter,
    Finset.mem_Ico, List.mem_cons, not_or]
  constructor
  · rintro ⟨⟨h1, h2⟩, h3, h4⟩
    by_cases hx : x < (receive start messages).state.iteration
    · exact Or.inl ⟨⟨h1, hx⟩, h4⟩
    · exact Or.inr ⟨by omega, by omega⟩
  · rintro (⟨⟨h1, h2⟩, h3⟩ | ⟨h1, h2⟩)
    · exact ⟨⟨h1, by omega⟩, by omega, h3⟩
    · refine ⟨⟨by omega, by omega⟩, by omega, ?_⟩
      intro hx
      have := haccepted hx
      omega

private theorem lt_of_mem_outstanding {r : Reception K} {first n : Nat}
    (h : n ∈ r.outstanding first) : n < r.state.iteration := by
  simp only [Reception.outstanding, Finset.mem_filter, Finset.mem_Ico] at h
  exact h.1.2

/-- The keys held while skipping to `number`, before pruning. -/
private theorem get?_skippedTo_receive {start : SenderKeyState K}
    {messages : List (SenderKeyMessageContent T)} (h : ReceptionInvariant start messages)
    (number x : Nat) (value : K) :
    ((receive start messages).state.skippedTo number).get? x = some value ↔
      (x ∈ (receive start messages).outstanding start.iteration ∧
          KeptSince start messages x ∨
        ((receive start messages).state.iteration ≤ x ∧ x < number)) ∧
        value = start.forwardKey x := by
  rw [SenderKeyState.get?_skippedTo]
  by_cases hx : (receive start messages).state.iteration ≤ x ∧ x < number
  · rw [if_pos hx, h.forwardKey hx.1]
    simp only [Option.some.injEq, hx, and_self, or_true, true_and]
    exact eq_comm
  · rw [if_neg hx, h.retained]
    tauto

/-- A key held while skipping is held with every outstanding key above it. -/
private theorem countAbove_skippedTo {start : SenderKeyState K}
    {messages : List (SenderKeyMessageContent T)} {message : SenderKeyMessageContent T}
    (h : ReceptionInvariant start messages)
    (hle : (receive start messages).state.iteration ≤ message.messageNumber)
    (heq : receive start (messages ++ [message]) =
      ⟨(receive start messages).state.forwardState message.messageNumber,
        message.messageNumber :: (receive start messages).accepted⟩) (x : Nat)
    (hx : ((receive start messages).state.skippedTo message.messageNumber).get? x ≠ none) :
    ((receive start messages).state.skippedTo message.messageNumber).countAbove x =
      (receive start (messages ++ [message])).outstandingAbove start.iteration x := by
  obtain ⟨value, hvalue⟩ := Option.ne_none_iff_exists'.mp hx
  have hheld := ((get?_skippedTo_receive h _ x value).mp hvalue).1
  apply SortedMap.countAbove_eq_card
  intro y hxy
  rw [outstanding_forward h hle heq, Option.isSome_iff_exists]
  constructor
  · intro hy
    refine ⟨start.forwardKey y, (get?_skippedTo_receive h _ y _).mpr ⟨?_, rfl⟩⟩
    rcases hy with hy | hy
    · rcases hheld with ⟨-, hkept⟩ | hheld
      · exact Or.inl ⟨hy, hkept.mono hxy.le⟩
      · have := lt_of_mem_outstanding hy
        omega
    · exact Or.inr hy
  · rintro ⟨value', hvalue'⟩
    rcases ((get?_skippedTo_receive h _ y value').mp hvalue').1 with hy | hy
    · exact Or.inl hy.1
    · exact Or.inr hy

private theorem retained_forward {start : SenderKeyState K}
    {messages : List (SenderKeyMessageContent T)} {message : SenderKeyMessageContent T}
    (h : ReceptionInvariant start messages)
    (hle : (receive start messages).state.iteration ≤ message.messageNumber)
    (heq : receive start (messages ++ [message]) =
      ⟨(receive start messages).state.forwardState message.messageNumber,
        message.messageNumber :: (receive start messages).accepted⟩) (n : Nat) (key : K) :
    (receive start (messages ++ [message])).state.skippedMessageKeys.get? n = some key ↔
      n ∈ (receive start (messages ++ [message])).outstanding start.iteration ∧
        KeptSince start (messages ++ [message]) n ∧ key = start.forwardKey n := by
  have hiter : (receive start (messages ++ [message])).state.iteration =
      message.messageNumber + 1 := by
    rw [heq]
    rfl
  have hnew : (receive start (messages ++ [message])).state.skippedMessageKeys =
      ((receive start messages).state.skippedTo message.messageNumber).pruneTo
        SENDER_KEY_MAX_STORED_SKIPPED_KEYS := by
    rw [heq, SenderKeyState.forwardState, pruneSkipped]
  have hheld := get?_skippedTo_receive h message.messageNumber n
  rw [hnew, SortedMap.get?_pruneTo, keptSince_snoc, hiter, outstanding_forward h hle heq]
  by_cases hget :
      ((receive start messages).state.skippedTo message.messageNumber).get? n = none
  · have hnone := (hheld (start.forwardKey n)).not.mp (by rw [hget]; simp)
    rw [hget]
    simp only [ite_self, reduceCtorEq, false_iff]
    rintro ⟨hn, ⟨hk, -⟩, -⟩
    exact hnone ⟨hn.imp (fun ho => ⟨ho, hk⟩) id, rfl⟩
  · rw [countAbove_skippedTo h hle heq n hget]
    by_cases hc : (receive start (messages ++ [message])).outstandingAbove start.iteration n <
        SENDER_KEY_MAX_STORED_SKIPPED_KEYS
    · rw [if_pos hc, hheld]
      simp only [hc, implies_true, and_true]
      constructor
      · rintro ⟨hn | hn, hkey⟩
        · exact ⟨Or.inl hn.1, hn.2, hkey⟩
        · exact ⟨Or.inr hn, h.keptSince hn.1, hkey⟩
      · rintro ⟨hn | hn, hk, hkey⟩
        · exact ⟨Or.inl ⟨hn, hk⟩, hkey⟩
        · exact ⟨Or.inr hn, hkey⟩
    · rw [if_neg hc]
      simp only [reduceCtorEq, false_iff]
      rintro ⟨hn, ⟨-, hlast⟩, -⟩
      apply hc
      apply hlast (by omega)
      rcases hn with hn | hn
      · have := lt_of_mem_outstanding hn
        omega
      · omega

private theorem invariant_of_forward {start : SenderKeyState K}
    {messages : List (SenderKeyMessageContent T)} {message : SenderKeyMessageContent T}
    (h : ReceptionInvariant start messages)
    (hle : (receive start messages).state.iteration ≤ message.messageNumber)
    (heq : receive start (messages ++ [message]) =
      ⟨(receive start messages).state.forwardState message.messageNumber,
        message.messageNumber :: (receive start messages).accepted⟩) :
    ReceptionInvariant start (messages ++ [message]) := by
  have hiter : (receive start (messages ++ [message])).state.iteration =
      message.messageNumber + 1 := by
    rw [heq]
    rfl
  have hstart := h.le
  refine ⟨?_, by omega, ?_, ?_, reached_snoc h (by omega), retained_forward h hle heq⟩
  · rw [heq]
    exact h.keyId
  · rw [hiter, heq]
    simp only [SenderKeyState.forwardState]
    rw [h.chainKey, KeyChain.chainKey_chainKey]
    congr 1
    omega
  · rw [hiter, heq]
    intro n hn
    rcases List.mem_cons.mp hn with rfl | hn
    · omega
    · have := h.accepted n hn
      omega

theorem receptionInvariant_snoc {start : SenderKeyState K}
    {messages : List (SenderKeyMessageContent T)} {message : SenderKeyMessageContent T}
    (h : ReceptionInvariant start messages) :
    ReceptionInvariant start (messages ++ [message]) := by
  cases hplan : (receive start messages).state.planDecrypt message with
  | error e =>
      apply invariant_of_rejected h
      rw [receive_snoc, Reception.deliver, hplan]
  | ok plan =>
      have heq : receive start (messages ++ [message]) =
          ⟨plan.nextState, message.messageNumber :: (receive start messages).accepted⟩ := by
        rw [receive_snoc, Reception.deliver, hplan]
        rfl
      obtain ⟨-, ⟨hlt, -, hnext⟩ | ⟨hle, -, -, -, hnext⟩⟩ :=
        SenderKeyState.planDecrypt_eq_ok.mp hplan
      · exact invariant_of_consumed h hlt (by rw [heq, hnext])
      · exact invariant_of_forward h hle (by rw [heq, hnext])

theorem receptionInvariant (keyId iteration : Nat) (chainKey : K)
    (messages : List (SenderKeyMessageContent T)) :
    ReceptionInvariant (SenderKeyState.new keyId chainKey iteration) messages := by
  induction messages using List.reverseRecOn with
  | nil => exact receptionInvariant_nil keyId iteration chainKey
  | append_singleton messages message ih => exact receptionInvariant_snoc ih

/-- The retained map meets its cap after every forward step. -/
theorem retained_le_cap {state : SenderKeyState K} {message : SenderKeyMessageContent T}
    {plan : SenderKeyDecryptPlan K T} (h : state.planDecrypt message = .ok plan)
    (hforward : state.iteration < plan.nextState.iteration) :
    plan.nextState.skippedMessageKeys.length ≤ SENDER_KEY_MAX_STORED_SKIPPED_KEYS := by
  obtain ⟨-, ⟨-, -, hnext⟩ | ⟨-, -, -, -, hnext⟩⟩ := SenderKeyState.planDecrypt_eq_ok.mp h
  · rw [hnext] at hforward
    exact absurd hforward (lt_irrefl _)
  · rw [hnext, SenderKeyState.forwardState, pruneSkipped, SortedMap.length_pruneTo]
    exact min_le_left _ _

/-- A sender's message inside the forward window is accepted. -/
theorem ReceptionInvariant.planDecrypt_forward {start : SenderKeyState K}
    {messages : List (SenderKeyMessageContent T)} (h : ReceptionInvariant start messages)
    (hcrypt : Nip44RoundTrip K) {message : SenderKeyMessageContent T} {plaintext : T}
    (hsent : SentBy start message plaintext)
    (hle : (receive start messages).state.iteration ≤ message.messageNumber)
    (hskip : message.messageNumber - (receive start messages).state.iteration ≤
      SENDER_KEY_MAX_SKIP) :
    (receive start messages).state.planDecrypt message =
      .ok ⟨(receive start messages).state.forwardState message.messageNumber, plaintext⟩ := by
  obtain ⟨hid, -, hmax, hdec⟩ := hsent.spec hcrypt
  refine SenderKeyState.planDecrypt_eq_ok.mpr
    ⟨hid.trans h.keyId.symm, Or.inr ⟨hle, hskip, hmax, ?_, rfl⟩⟩
  rw [h.forwardKey hle]
  exact hdec

/-- A sender's message whose key is retained is accepted. -/
theorem ReceptionInvariant.planDecrypt_retained {start : SenderKeyState K}
    {messages : List (SenderKeyMessageContent T)} (h : ReceptionInvariant start messages)
    (hcrypt : Nip44RoundTrip K) {message : SenderKeyMessageContent T} {plaintext : T}
    (hsent : SentBy start message plaintext)
    (hnew : message.messageNumber ∉ (receive start messages).accepted)
    (hlt : message.messageNumber < (receive start messages).state.iteration)
    (hkept : KeptSince start messages message.messageNumber) :
    (receive start messages).state.planDecrypt message =
      .ok ⟨(receive start messages).state.consumeState message.messageNumber, plaintext⟩ := by
  obtain ⟨hid, hfirst, -, hdec⟩ := hsent.spec hcrypt
  refine SenderKeyState.planDecrypt_eq_ok.mpr ⟨hid.trans h.keyId.symm,
    Or.inl ⟨hlt, ⟨start.forwardKey message.messageNumber, ?_, hdec⟩, rfl⟩⟩
  refine (h.retained _ _).mpr ⟨?_, hkept, rfl⟩
  simp only [Reception.outstanding, Finset.mem_filter, Finset.mem_Ico]
  exact ⟨⟨hfirst, hlt⟩, hnew⟩

/-- A sender's message is accepted, with its plaintext, exactly when it was not
accepted before and is either inside the forward window or a skipped number
that stayed among the largest outstanding ones at every forward step since it
was skipped. A rejected delivery changes nothing, and a forward step leaves at
most the cap of retained keys. -/
theorem planDecrypt_accepts_iff (hcrypt : Nip44RoundTrip K) (keyId iteration : Nat)
    (chainKey : K) (messages : List (SenderKeyMessageContent T))
    (message : SenderKeyMessageContent T) (plaintext : T)
    (hsent : SentBy (SenderKeyState.new keyId chainKey iteration) message plaintext) :
    let start := SenderKeyState.new keyId chainKey iteration
    let before := receive start messages
    let after := receive start (messages ++ [message])
    ((∃ plan, before.state.planDecrypt message = .ok plan) ↔
      message.messageNumber ∉ before.accepted ∧
        (before.state.iteration ≤ message.messageNumber ∧
            message.messageNumber - before.state.iteration ≤ SENDER_KEY_MAX_SKIP ∧
            message.messageNumber < u32Max ∨
          message.messageNumber < before.state.iteration ∧
            iteration ≤ message.messageNumber ∧
            KeptSince start messages message.messageNumber)) ∧
      (∀ plan, before.state.planDecrypt message = .ok plan →
        plan.plaintext = plaintext ∧ after.accepted = message.messageNumber :: before.accepted) ∧
      (∀ e, before.state.planDecrypt message = .error e → after = before) ∧
      (before.state.iteration < after.state.iteration →
        after.state.skippedMessageKeys.length ≤ SENDER_KEY_MAX_STORED_SKIPPED_KEYS) := by
  intro start before after
  have hinv : ReceptionInvariant start messages := receptionInvariant keyId iteration chainKey _
  have hafter : after = before.deliver message := receive_snoc start messages message
  obtain ⟨-, hfirst, hmax, hdec⟩ := hsent.spec hcrypt
  refine ⟨⟨?_, ?_⟩, ?_, ?_, ?_⟩
  · rintro ⟨plan, hplan⟩
    obtain ⟨-, ⟨hlt, ⟨key, hget, -⟩, -⟩ | ⟨hle, hskip, -⟩⟩ :=
      SenderKeyState.planDecrypt_eq_ok.mp hplan
    · obtain ⟨hout, hkept, -⟩ := (hinv.retained _ _).mp hget
      simp only [Reception.outstanding, Finset.mem_filter] at hout
      exact ⟨hout.2, Or.inr ⟨hlt, hfirst, hkept⟩⟩
    · refine ⟨?_, Or.inl ⟨hle, hskip, hmax⟩⟩
      intro hmem
      exact absurd (hinv.accepted _ hmem) (not_lt.mpr hle)
  · rintro ⟨hnew, ⟨hle, hskip, -⟩ | ⟨hlt, -, hkept⟩⟩
    · exact ⟨_, hinv.planDecrypt_forward hcrypt hsent hle hskip⟩
    · exact ⟨_, hinv.planDecrypt_retained hcrypt hsent hnew hlt hkept⟩
  · intro plan hplan
    refine ⟨?_, by rw [hafter, Reception.deliver, hplan]⟩
    obtain ⟨-, ⟨hlt, ⟨key, hget, hplain⟩, -⟩ | ⟨hle, -, -, hplain, -⟩⟩ :=
      SenderKeyState.planDecrypt_eq_ok.mp hplan
    · obtain ⟨-, -, rfl⟩ := (hinv.retained _ _).mp hget
      exact Except.ok.inj (hplain.symm.trans hdec)
    · rw [hinv.forwardKey hle] at hplain
      exact Except.ok.inj (hplain.symm.trans hdec)
  · intro e herror
    rw [hafter, Reception.deliver, herror]
  · intro hforward
    rw [hafter, Reception.deliver] at hforward ⊢
    cases hplan : before.state.planDecrypt message with
    | error e =>
        rw [hplan] at hforward
        exact absurd hforward (lt_irrefl _)
    | ok plan =>
        rw [hplan] at hforward
        exact retained_le_cap hplan hforward

/-- A sender's chain that starts at number 0. -/
def chainStart : SenderKeyState KeyTerm :=
  SenderKeyState.new 0 (.secret 0) 0

def chainMessage (n : Nat) : SenderKeyMessageContent TextTerm :=
  ⟨0, n, .sealed (chainStart.forwardKey n) (.secret 1) (.bytes "hello")⟩

theorem sentBy_chainMessage {n : Nat} (h : n < u32Max) :
    SentBy chainStart (chainMessage n) (.bytes "hello") := by
  have hplan : ∀ state : SenderKeyState KeyTerm, state.iteration < u32Max →
      state.planEncrypt (.secret 1) (.bytes "hello") = .ok {
        nextState := { state with
          chainKey := (deriveMessageKey state.chainKey).1
          iteration := state.iteration + 1 }
        keyId := state.keyId
        messageNumber := state.iteration
        ciphertext := .sealed (deriveMessageKey state.chainKey).2 (.secret 1) (.bytes "hello")
        plaintext := .bytes "hello" } := by
    intro state hlt
    rw [SenderKeyState.planEncrypt, u32CheckedSucc, if_pos hlt]
    rfl
  have hrun : ∀ k, k < u32Max → SenderRun chainStart
      { chainStart with
        chainKey := KeyChain.chainKey deriveMessageKey (KeyTerm.secret 0) k
        iteration := k } := by
    intro k
    induction k with
    | zero => exact fun _ => SenderRun.start
    | succ k ih =>
        intro hk
        rw [KeyChain.chainKey_succ]
        exact SenderRun.encrypt (ih (by omega)) (hplan _ (Nat.lt_of_succ_lt hk))
  exact ⟨_, .secret 1, _, hrun n h, hplan _ h, rfl⟩

private theorem invariant_chainStart (messages : List (SenderKeyMessageContent TextTerm)) :
    ReceptionInvariant chainStart messages :=
  receptionInvariant 0 0 (KeyTerm.secret 0) messages

private theorem receive_chainMessage_forward
    (messages : List (SenderKeyMessageContent TextTerm)) {n : Nat} (hmax : n < u32Max)
    (hle : (receive chainStart messages).state.iteration ≤ n)
    (hskip : n - (receive chainStart messages).state.iteration ≤ SENDER_KEY_MAX_SKIP) :
    receive chainStart (messages ++ [chainMessage n]) =
      ⟨(receive chainStart messages).state.forwardState n,
        n :: (receive chainStart messages).accepted⟩ := by
  have hplan := (invariant_chainStart messages).planDecrypt_forward
    Symbolic.nip44RoundTrip (sentBy_chainMessage hmax) hle hskip
  rw [receive_snoc, Reception.deliver, hplan]
  rfl

/-- After message 2, message 0 is a retained number and is accepted. -/
theorem planDecrypt_accepts_retained :
    SentBy chainStart (chainMessage 0) (.bytes "hello") ∧
      ∃ plan,
        (receive chainStart [chainMessage 2]).state.planDecrypt (chainMessage 0) = .ok plan ∧
        plan.plaintext = .bytes "hello" := by
  have hsent := sentBy_chainMessage (n := 0) (by decide)
  obtain ⟨hiff, hplain, -⟩ := planDecrypt_accepts_iff Symbolic.nip44RoundTrip 0 0
    (.secret 0) [chainMessage 2] (chainMessage 0) (.bytes "hello") hsent
  have hstep : receive chainStart [chainMessage 2] = ⟨chainStart.forwardState 2, [2]⟩ :=
    receive_chainMessage_forward [] (by decide) (Nat.zero_le _) (by decide)
  have hkept : KeptSince chainStart ([] ++ [chainMessage 2]) 0 := by
    refine (keptSince_snoc chainStart [] (chainMessage 2) 0).mpr ⟨?_, ?_⟩
    · intro before message after h
      simp at h
    · intro _ _
      rw [List.nil_append, hstep]
      decide
  have hnew : 0 ∉ (receive chainStart [chainMessage 2]).accepted := by
    rw [hstep]
    decide
  have hlt : 0 < (receive chainStart [chainMessage 2]).state.iteration := by
    rw [hstep]
    decide
  obtain ⟨plan, hplan⟩ := hiff.mpr ⟨hnew, Or.inr ⟨hlt, le_rfl, hkept⟩⟩
  exact ⟨hsent, plan, hplan, (hplain plan hplan).1⟩

private theorem receive_2001 :
    receive chainStart [chainMessage 2001] = ⟨chainStart.forwardState 2001, [2001]⟩ :=
  receive_chainMessage_forward [] (by decide) (Nat.zero_le _) (by decide)

private theorem outstandingAbove_2001 (n : Nat) :
    (receive chainStart [chainMessage 2001]).outstandingAbove chainStart.iteration n =
      2000 - n := by
  have hset : ((receive chainStart [chainMessage 2001]).outstanding
      chainStart.iteration).filter (n < ·) = Finset.Ico (n + 1) 2001 := by
    ext x
    rw [receive_2001]
    simp only [Reception.outstanding, SenderKeyState.forwardState, chainStart,
      SenderKeyState.new, Finset.mem_filter, Finset.mem_Ico, List.mem_cons, List.not_mem_nil,
      or_false]
    omega
  rw [Reception.outstandingAbove, hset, Nat.card_Ico]
  omega

private theorem receive_2001_1 :
    receive chainStart [chainMessage 2001, chainMessage 1] =
      ⟨(chainStart.forwardState 2001).consumeState 1, [1, 2001]⟩ := by
  have hnew : (chainMessage 1).messageNumber ∉
      (receive chainStart [chainMessage 2001]).accepted := by
    rw [receive_2001]
    simp [chainMessage]
  have hlt : (chainMessage 1).messageNumber <
      (receive chainStart [chainMessage 2001]).state.iteration := by
    rw [receive_2001]
    simp [chainMessage, SenderKeyState.forwardState]
  have hkept : KeptSince chainStart [chainMessage 2001] 1 := by
    refine (keptSince_snoc chainStart [] (chainMessage 2001) 1).mpr ⟨?_, ?_⟩
    · intro before message after h
      simp at h
    · intro _ _
      rw [List.nil_append, outstandingAbove_2001, SENDER_KEY_MAX_STORED_SKIPPED_KEYS]
      omega
  have hplan := (invariant_chainStart [chainMessage 2001]).planDecrypt_retained
    Symbolic.nip44RoundTrip (sentBy_chainMessage (by decide)) hnew hlt hkept
  have hsnoc := receive_snoc chainStart [chainMessage 2001] (chainMessage 1)
  rw [Reception.deliver, hplan, receive_2001] at hsnoc
  exact hsnoc

private theorem receive_2001_1_2002 :
    receive chainStart [chainMessage 2001, chainMessage 1, chainMessage 2002] =
      ⟨((chainStart.forwardState 2001).consumeState 1).forwardState 2002,
        [2002, 1, 2001]⟩ := by
  have hiter : (receive chainStart [chainMessage 2001, chainMessage 1]).state.iteration =
      2002 := by
    rw [receive_2001_1, SenderKeyState.consumeState, SenderKeyState.forwardState]
  have hskip : 2002 - (receive chainStart [chainMessage 2001, chainMessage 1]).state.iteration ≤
      SENDER_KEY_MAX_SKIP := by
    rw [hiter]
    decide
  have hstep := receive_chainMessage_forward [chainMessage 2001, chainMessage 1]
    (by decide) hiter.le hskip
  rw [receive_2001_1] at hstep
  exact hstep

/-- Messages 2001, 1 and 2002 are delivered in this order. The first delivery
prunes the key of message 0. Message 1 is then consumed, so that message 0 is
among the cap largest outstanding numbers at the last forward step, and it is
still rejected. -/
theorem pruned_number_stays_rejected :
    let messages := [chainMessage 2001, chainMessage 1, chainMessage 2002]
    let last := receive chainStart messages
    (∀ n < 2003, SentBy chainStart (chainMessage n) (.bytes "hello")) ∧
      (receive chainStart [chainMessage 2001, chainMessage 1]).state.iteration <
        last.state.iteration ∧
      last.accepted = [2002, 1, 2001] ∧ last.state.iteration = 2003 ∧
      0 ∈ last.outstanding chainStart.iteration ∧
      last.outstandingAbove chainStart.iteration 0 < SENDER_KEY_MAX_STORED_SKIPPED_KEYS ∧
      ∀ plan, last.state.planDecrypt (chainMessage 0) ≠ .ok plan := by
  intro messages last
  have hiter : last.state.iteration = 2003 := by
    simp only [last, messages, receive_2001_1_2002, SenderKeyState.forwardState]
  have haccepted : last.accepted = [2002, 1, 2001] := by
    simp only [last, messages, receive_2001_1_2002]
  refine ⟨fun n hn => sentBy_chainMessage (hn.trans (by decide)), ?_, haccepted, hiter, ?_,
    ?_, ?_⟩
  · rw [hiter, receive_2001_1, SenderKeyState.consumeState, SenderKeyState.forwardState]
    exact Nat.lt_succ_self 2002
  · simp only [Reception.outstanding, hiter, haccepted, chainStart, SenderKeyState.new,
      Finset.mem_filter, Finset.mem_Ico, List.mem_cons, List.not_mem_nil, or_false]
    omega
  · have hsub : (last.outstanding chainStart.iteration).filter (0 < ·) ⊆
        Finset.Ico 2 2001 := by
      intro x hx
      simp only [Reception.outstanding, hiter, haccepted, Finset.mem_filter, Finset.mem_Ico,
        List.mem_cons, List.not_mem_nil, or_false, not_or] at hx ⊢
      omega
    have hcard := Finset.card_le_card hsub
    rw [Nat.card_Ico] at hcard
    rw [Reception.outstandingAbove, SENDER_KEY_MAX_STORED_SKIPPED_KEYS]
    omega
  · intro plan hplan
    obtain ⟨-, ⟨-, ⟨key, hget, -⟩, -⟩ | ⟨hle, -⟩⟩ := SenderKeyState.planDecrypt_eq_ok.mp hplan
    · simp only [last] at hget
      rw [(invariant_chainStart messages).retained] at hget
      obtain ⟨-, hkept, -⟩ := hget
      have hbound := hkept [] (chainMessage 2001) [chainMessage 1, chainMessage 2002]
        (by rw [List.nil_append])
      rw [List.nil_append, outstandingAbove_2001, receive_2001] at hbound
      have hpos : 0 < (chainStart.forwardState 2001).iteration := Nat.succ_pos _
      have hlt := hbound hpos hpos
      simp [SENDER_KEY_MAX_STORED_SKIPPED_KEYS, chainMessage] at hlt
    · rw [hiter] at hle
      exact absurd hle (by decide)

end NostrDoubleRatchet.SenderKeyDelivery
