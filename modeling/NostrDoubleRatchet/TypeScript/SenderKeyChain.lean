import NostrDoubleRatchet.TypeScript.SenderKey

/-!
The chain behind a sender key. A state only ever holds keys of the chain it started from, and
a message whose key is still held opens, whether its number is visible or has to be searched.
-/

namespace NostrDoubleRatchet.TypeScript

namespace SenderKeyState

variable {K T : Type} [Primitives K T]

/-- The retained keys lie below the chain's position. -/
def Placed (state : SenderKeyState K) : Prop :=
  ∀ n key, state.skippedMessageKeys.get? n = some key → n < state.iteration

/-- The key of number `n`, unless it has been consumed or given up. -/
def positionKey (state : SenderKeyState K) (n : Nat) : Option K :=
  if n < state.iteration then state.skippedMessageKeys.get? n else some (state.forwardKey n)

/-- Number `n` is not consumed and within the skip window. -/
def Awaits (state : SenderKeyState K) (n : Nat) : Prop :=
  if n < state.iteration then (state.skippedMessageKeys.get? n).isSome = true
  else n - state.iteration ≤ SENDER_KEY_MAX_SKIP ∧ n < u32Max

/-- `state` is further down the chain of `origin`. -/
structure Continues (origin state : SenderKeyState K) : Prop where
  keyId : state.keyId = origin.keyId
  placed : Placed state
  keys : ∀ n key, positionKey state n = some key → positionKey origin n = some key

theorem Continues.refl {state : SenderKeyState K} (h : Placed state) : Continues state state :=
  ⟨rfl, h, fun _ _ hkey => hkey⟩

theorem Continues.trans {a b c : SenderKeyState K} (hab : Continues a b) (hbc : Continues b c) :
    Continues a c :=
  ⟨hbc.keyId.trans hab.keyId, hbc.placed, fun n key hkey => hab.keys n key (hbc.keys n key hkey)⟩

/-- A number that the later state awaits has the key it had at the origin. -/
theorem Continues.awaited {origin state : SenderKeyState K} {number : Nat} {key : K}
    (hcontinues : Continues origin state)
    (hawaits : Awaits state number)
    (hkey : positionKey origin number = some key) :
    positionKey state number = some key := by
  have hsome : (positionKey state number).isSome = true := by
    unfold Awaits at hawaits
    unfold positionKey
    split at hawaits
    · rename_i hlt
      rw [if_pos hlt]
      exact hawaits
    · rename_i hle
      rw [if_neg hle]
      rfl
  obtain ⟨found, hfound⟩ := Option.isSome_iff_exists.mp hsome
  rw [hfound, ← hcontinues.keys number found hfound, hkey]

theorem get?_of_pruneSkipped {map : SortedMap Nat K} {n : Nat} {key : K}
    (h : (pruneSkipped map).get? n = some key) : map.get? n = some key := by
  rw [pruneSkipped, SortedMap.get?_pruneTo] at h
  split at h
  · exact h
  · cases h

theorem positionKey_of_retained {state : SenderKeyState K} (hplaced : Placed state) {n : Nat}
    {key : K} (h : state.skippedMessageKeys.get? n = some key) :
    positionKey state n = some key := by
  rw [positionKey, if_pos (hplaced n key h), h]

theorem continues_consumeState {state : SenderKeyState K} (hplaced : Placed state) (n : Nat) :
    Continues state (state.consumeState n) := by
  have herase : ∀ m key, (state.consumeState n).skippedMessageKeys.get? m = some key →
      state.skippedMessageKeys.get? m = some key := by
    intro m key hget
    change (state.skippedMessageKeys.erase n).get? m = _ at hget
    rw [SortedMap.get?_erase] at hget
    split at hget
    · cases hget
    · exact hget
  refine ⟨rfl, fun m key hget => hplaced m key (herase m key hget), ?_⟩
  intro m key hkey
  have hiteration : (state.consumeState n).iteration = state.iteration := rfl
  rw [positionKey, hiteration] at hkey
  rw [positionKey]
  split at hkey
  · rename_i hlt
    rw [if_pos hlt]
    exact herase m key hkey
  · rename_i hle
    rw [if_neg hle]
    exact hkey

theorem forwardKey_forwardState {state : SenderKeyState K} {n m : Nat}
    (hn : state.iteration ≤ n) (hm : n < m) :
    (state.forwardState n).forwardKey m = state.forwardKey m := by
  have hsum : n - state.iteration + 1 + (m - (n + 1)) = m - state.iteration := by omega
  change KeyChain.messageKey deriveMessageKey (KeyChain.chainKey deriveMessageKey state.chainKey
    (n - state.iteration + 1)) (m - (n + 1)) = _
  rw [KeyChain.messageKey_chainKey, hsum]
  rfl

theorem continues_forwardState {state : SenderKeyState K} (hplaced : Placed state) {n : Nat}
    (hn : state.iteration ≤ n) : Continues state (state.forwardState n) := by
  have hretained : ∀ m key, (state.forwardState n).skippedMessageKeys.get? m = some key →
      m < n + 1 ∧ positionKey state m = some key := by
    intro m key hget
    simp only [SenderKeyState.forwardState] at hget
    have hskipped := get?_of_pruneSkipped hget
    rw [SenderKeyState.get?_skippedTo] at hskipped
    split at hskipped
    · rename_i hrange
      exact ⟨by omega, by rw [positionKey, if_neg (by omega)]; exact hskipped⟩
    · have hlt := hplaced m key hskipped
      exact ⟨by omega, positionKey_of_retained hplaced hskipped⟩
  refine ⟨rfl, fun m key hget => (hretained m key hget).1, ?_⟩
  intro m key hkey
  have hiteration : (state.forwardState n).iteration = n + 1 := rfl
  rw [positionKey, hiteration] at hkey
  split at hkey
  · exact (hretained m key hkey).2
  · rename_i hle
    rw [positionKey, if_neg (by omega), ← hkey, forwardKey_forwardState hn (by omega)]

/-- What a positioned decryption does to the state. -/
theorem decryptFromBytes_eq_ok {state next : SenderKeyState K} {n : Nat} {ciphertext plaintext : T}
    (h : decryptFromBytes state n ciphertext = .ok (plaintext, next)) :
    (next = state.consumeState n ∧ ∃ key, state.skippedMessageKeys.get? n = some key ∧
        Primitives.decryptToBytes key ciphertext = .ok plaintext) ∨
      (state.iteration ≤ n ∧ next = state.forwardState n ∧
        Primitives.decryptToBytes (state.forwardKey n) ciphertext = .ok plaintext) := by
  unfold decryptFromBytes at h
  split at h
  · cases h
  split at h
  · split at h
    · cases h
    · rename_i key hkey
      rw [except_bind_eq_ok] at h
      obtain ⟨opened, hopen, hpure⟩ := h
      cases hpure
      exact Or.inl ⟨rfl, key, hkey, hopen⟩
  rename_i hlt
  split at h
  · cases h
  split at h
  · cases h
  · rw [except_bind_eq_ok] at h
    obtain ⟨opened, hopen, hpure⟩ := h
    have hnumber : state.iteration + (n - state.iteration) = n := by omega
    have hchain := KeyChain.skipKeys_chainKey (deriveMessageKey (K := K) (T := T))
      (n - state.iteration) state.iteration state.chainKey state.skippedMessageKeys
    have hiter := KeyChain.skipKeys_number (deriveMessageKey (K := K) (T := T))
      (n - state.iteration) state.iteration state.chainKey state.skippedMessageKeys
    rw [hnumber] at hiter
    refine Or.inr ⟨by omega, ?_, ?_⟩
    · cases hpure
      rw [hchain, hiter, SenderKeyState.forwardState, KeyChain.chainKey_succ]
      rfl
    · cases hpure
      rw [hchain] at hopen
      exact hopen

/-- A positioned decryption of a message whose key is still held. -/
theorem decryptFromBytes_of_awaits {state : SenderKeyState K} {n : Nat} {key : K}
    {ciphertext plaintext : T} (hawaits : Awaits state n) (hkey : positionKey state n = some key)
    (hopen : Primitives.decryptToBytes key ciphertext = .ok plaintext)
    (hn : n ≤ u32Max) :
    ∃ next, decryptFromBytes state n ciphertext = .ok (plaintext, next) := by
  unfold decryptFromBytes
  rw [if_neg (by omega)]
  rw [Awaits] at hawaits
  rw [positionKey] at hkey
  split at hkey
  · rename_i hlt
    rw [if_pos hlt, hkey]
    dsimp only
    rw [hopen]
    exact ⟨_, rfl⟩
  · rename_i hlt
    rw [if_neg hlt] at hawaits
    have hchain := KeyChain.skipKeys_chainKey (deriveMessageKey (K := K) (T := T))
      (n - state.iteration) state.iteration state.chainKey state.skippedMessageKeys
    cases hkey
    rw [if_neg hlt, if_neg (by omega), if_neg (by omega)]
    dsimp only
    rw [hchain]
    change ∃ next, Primitives.decryptToBytes (state.forwardKey n) ciphertext >>= _ = _
    rw [hopen]
    exact ⟨_, rfl⟩

theorem continues_decryptFromBytes {state next : SenderKeyState K} (hplaced : Placed state)
    {n : Nat} {ciphertext plaintext : T}
    (h : decryptFromBytes state n ciphertext = .ok (plaintext, next)) : Continues state next := by
  rcases decryptFromBytes_eq_ok h with ⟨rfl, -⟩ | ⟨hn, rfl, -⟩
  · exact continues_consumeState hplaced n
  · exact continues_forwardState hplaced hn

/-- The state after the search has passed over its next key. -/
def passOver (state : SenderKeyState K) : SenderKeyState K :=
  { state with
    chainKey := (deriveMessageKey state.chainKey).1
    iteration := state.iteration + 1
    skippedMessageKeys :=
      state.skippedMessageKeys.insert state.iteration (deriveMessageKey state.chainKey).2 }

theorem forwardKey_self (state : SenderKeyState K) :
    state.forwardKey state.iteration = (deriveMessageKey state.chainKey).2 := by
  rw [SenderKeyState.forwardKey, Nat.sub_self]
  rfl

theorem forwardKey_passOver {state : SenderKeyState K} {n : Nat} (h : state.iteration < n) :
    (passOver state).forwardKey n = state.forwardKey n := by
  have hsum : n - (state.iteration + 1) + 1 = n - state.iteration := by omega
  change KeyChain.messageKey deriveMessageKey (deriveMessageKey state.chainKey).1
    (n - (state.iteration + 1)) = _
  rw [KeyChain.messageKey_step, hsum]
  rfl

theorem continues_passOver {state : SenderKeyState K} (hplaced : Placed state) :
    Continues state (passOver state) := by
  have hretained : ∀ n key, (passOver state).skippedMessageKeys.get? n = some key →
      n < state.iteration + 1 ∧ positionKey state n = some key := by
    intro n key hget
    change (state.skippedMessageKeys.insert _ _).get? n = _ at hget
    rw [SortedMap.get?_insert] at hget
    split at hget
    · rename_i heq
      subst heq
      rw [positionKey, if_neg (lt_irrefl _), forwardKey_self]
      exact ⟨by omega, hget⟩
    · have hlt := hplaced n key hget
      exact ⟨by omega, positionKey_of_retained hplaced hget⟩
  refine ⟨rfl, fun n key hget => (hretained n key hget).1, ?_⟩
  intro n key hkey
  have hiteration : (passOver state).iteration = state.iteration + 1 := rfl
  rw [positionKey, hiteration] at hkey
  split at hkey
  · exact (hretained n key hkey).2
  · rw [positionKey, if_neg (by omega), ← hkey, forwardKey_passOver (by omega)]

theorem searchForward_succ (ciphertext : T) (turns : Nat) (state : SenderKeyState K) :
    searchForward ciphertext (turns + 1) state =
      if state.iteration = u32Max then .error "sender-key iteration overflow"
      else
        match Primitives.decryptToBytes (state.forwardKey state.iteration) ciphertext with
        | .ok plaintext => .ok (state.iteration, plaintext, state.forwardState state.iteration)
        | .error _ => searchForward ciphertext turns (passOver state) := by
  rw [searchForward, forwardKey_self, SenderKeyState.forwardState, SenderKeyState.skippedTo,
    Nat.sub_self]
  rfl

theorem searchForward_eq_ok {ciphertext plaintext : T} {turns n : Nat}
    {state next : SenderKeyState K} (hplaced : Placed state)
    (h : searchForward ciphertext turns state = .ok (n, plaintext, next)) :
    Continues state next ∧ ∃ key : K, Primitives.decryptToBytes key ciphertext = .ok plaintext := by
  induction turns generalizing state with
  | zero => cases h
  | succ turns ih =>
      rw [searchForward_succ] at h
      split at h
      · cases h
      split at h
      · rename_i opened hopen
        cases h
        exact ⟨continues_forwardState hplaced (le_refl _), _, hopen⟩
      · have hpassed := continues_passOver hplaced
        obtain ⟨hrest, hkey⟩ := ih hpassed.placed h
        exact ⟨hpassed.trans hrest, hkey⟩

/-- The search reaches every key of the window. -/
theorem searchForward_finds {ciphertext plaintext : T} {turns n : Nat} {state : SenderKeyState K}
    (hle : state.iteration ≤ n) (hturns : n < state.iteration + turns) (hmax : n < u32Max)
    (hopen : Primitives.decryptToBytes (state.forwardKey n) ciphertext = .ok plaintext) :
    ∃ result, searchForward ciphertext turns state = .ok result := by
  induction turns generalizing state with
  | zero => omega
  | succ turns ih =>
      rw [searchForward_succ, if_neg (by omega)]
      split
      · exact ⟨_, rfl⟩
      · rename_i hfailed
        have hne : state.iteration ≠ n := by
          rintro rfl
          rw [hopen] at hfailed
          cases hfailed
        have hlt : state.iteration < n := by omega
        apply ih
        · exact hlt
        · change n < state.iteration + 1 + turns
          omega
        · rw [forwardKey_passOver hlt]
          exact hopen

theorem tryRetained_eq_some {ciphertext plaintext : T} {entries : List (Nat × K)} {n : Nat}
    (h : tryRetained ciphertext entries = some (n, plaintext)) :
    ∃ key : K, Primitives.decryptToBytes key ciphertext = .ok plaintext := by
  induction entries with
  | nil => cases h
  | cons entry rest ih =>
      obtain ⟨number, key⟩ := entry
      rw [tryRetained] at h
      split at h
      · rename_i opened hopen
        cases h
        exact ⟨key, hopen⟩
      · exact ih h

theorem tryRetained_finds {ciphertext plaintext : T} {entries : List (Nat × K)} {n : Nat} {key : K}
    (hmem : (n, key) ∈ entries)
    (hopen : Primitives.decryptToBytes key ciphertext = .ok plaintext) :
    ∃ result, tryRetained ciphertext entries = some result := by
  induction entries with
  | nil => cases hmem
  | cons entry rest ih =>
      obtain ⟨number, other⟩ := entry
      rw [tryRetained]
      split
      · exact ⟨_, rfl⟩
      · rename_i hfailed
        rcases List.mem_cons.mp hmem with heq | hmem
        · cases heq
          rw [hopen] at hfailed
          cases hfailed
        · exact ih hmem

theorem decryptBlindFromBytes_eq_ok {state next : SenderKeyState K} (hplaced : Placed state)
    {n : Nat} {ciphertext plaintext : T}
    (h : decryptBlindFromBytes state ciphertext = .ok (n, plaintext, next)) :
    Continues state next ∧ ∃ key : K, Primitives.decryptToBytes key ciphertext = .ok plaintext := by
  unfold decryptBlindFromBytes at h
  split at h
  · rename_i hretained
    cases h
    exact ⟨continues_consumeState hplaced n, tryRetained_eq_some hretained⟩
  · exact searchForward_eq_ok hplaced h

/-- A blind decryption of a message whose key is still held. -/
theorem decryptBlindFromBytes_of_awaits {state : SenderKeyState K} {n : Nat} {key : K}
    {ciphertext plaintext : T} (hawaits : Awaits state n) (hkey : positionKey state n = some key)
    (hopen : Primitives.decryptToBytes key ciphertext = .ok plaintext) :
    ∃ result, decryptBlindFromBytes state ciphertext = .ok result := by
  unfold decryptBlindFromBytes
  rw [Awaits] at hawaits
  rw [positionKey] at hkey
  split at hkey
  · obtain ⟨found, hfound⟩ := tryRetained_finds (SortedMap.mem_entries.mpr hkey) hopen
    rw [hfound]
    exact ⟨_, rfl⟩
  · rename_i hlt
    rw [if_neg hlt] at hawaits
    cases hkey
    split
    · exact ⟨_, rfl⟩
    · exact searchForward_finds (by omega) (by omega) hawaits.2 hopen

theorem placed_new (keyId : Nat) (chainKey : K) (iteration : Nat) :
    Placed (NostrDoubleRatchet.SenderKeyState.new keyId chainKey iteration) := by
  intro n key hget
  cases hget

omit [Primitives K T] in
/-- A distribution that yields a state yields the start of its chain, under its key id. -/
theorem fromDistribution_eq_ok [GroupCodec K T] {dist : SenderKeyDistribution}
    {state : SenderKeyState K} (h : fromDistribution (T := T) dist = .ok state) :
    state = NostrDoubleRatchet.SenderKeyState.new dist.keyId
        (GroupCodec.hexToBytes T dist.chainKey) dist.iteration ∧
      dist.keyId % 2 ^ 32 = dist.keyId := by
  unfold fromDistribution create at h
  split at h
  · cases h
  · rename_i hkeyId
    split at h
    · cases h
    · cases h
      refine ⟨rfl, Nat.mod_eq_of_lt ?_⟩
      have hmax : u32Max = 2 ^ 32 - 1 := rfl
      omega

end SenderKeyState

end NostrDoubleRatchet.TypeScript
