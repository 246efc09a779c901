import NostrDoubleRatchet.SenderKey.Blind
import NostrDoubleRatchet.Symbolic

/-!
The blind search refines positioned decryption. The cursor is compared with a
list of trials: the retained keys in number order, then the forward keys of the
window. Suspending the search between trials does not change what it returns.
-/

namespace NostrDoubleRatchet.BlindSearch

variable {K T : Type} [Primitives K T]

/-- A key the search tries, its number and the state it leads to. -/
structure Trial (K : Type) where
  number : Nat
  key : K
  next : SenderKeyState K

def retainedTrials (state : SenderKeyState K) (entries : List (Nat × K)) : List (Trial K) :=
  entries.map (fun entry => ⟨entry.1, entry.2, state.consumeState entry.1⟩)

def forwardTrials (state : SenderKeyState K) (first count : Nat) : List (Trial K) :=
  (List.range' first count).map (fun n => ⟨n, state.forwardKey n, state.forwardState n⟩)

/-- How many forward keys the window holds. -/
def windowSize (state : SenderKeyState K) : Nat :=
  min (SENDER_KEY_MAX_SKIP + 1) (u32Max - state.iteration)

def trials (state : SenderKeyState K) : List (Trial K) :=
  retainedTrials state state.skippedMessageKeys.entries ++
    forwardTrials state state.iteration (windowSize state)

/-- What the search reports once every trial has failed. -/
def lastStep (state : SenderKeyState K) : Except Error (BlindDecryptStep K T) :=
  if state.iteration ≤ u32Max ∧ u32Max ≤ state.iteration + SENDER_KEY_MAX_SKIP then
    .error (.decryption "sender-key iteration overflow")
  else .ok .exhausted

/-- Try the keys one by one, at most as many as the budget allows. -/
def runTrials (state : SenderKeyState K) (ciphertext : T) :
    Nat → List (Trial K) → Except Error (BlindDecryptStep K T)
  | 0, _ => .ok .pending
  | _ + 1, [] => lastStep state
  | budget + 1, trial :: rest =>
      match decryptWithMessageKey trial.key ciphertext with
      | .ok plaintext => .ok (.complete ⟨trial.next, state.keyId, trial.number, plaintext⟩)
      | .error _ => runTrials state ciphertext budget rest

/-- Repeated `advance` calls, one for each budget, until one does not suspend. -/
def search (ciphertext : T) :
    List Nat → BlindDecryptCursor K → Except Error (BlindDecryptStep K T)
  | [], _ => .ok .pending
  | budget :: rest, cursor =>
      match cursor.advance ciphertext budget with
      | (.ok .pending, cursor, _) => search ciphertext rest cursor
      | (result, _, _) => result

/-! Suspension. -/

theorem turn_ended_ne_pending {ciphertext : T} {cursor next : BlindDecryptCursor K}
    {result : Except Error (BlindDecryptStep K T)} {spent : Bool}
    (h : cursor.turn ciphertext = .ended result next spent) : result ≠ .ok .pending := by
  rw [BlindDecryptCursor.turn] at h
  split at h
  · split at h
    · cases h
      simp
    · cases h
  · rw [BlindDecryptCursor.tryForward] at h
    split at h
    · cases h
      simp
    · simp only at h
      split at h
      · cases h
        simp
      · split at h
        · cases h
          simp
        · cases h

/-- A search suspended after `a` trials and resumed with `b` more returns what
one call with both budgets returns. -/
theorem advance_add (ciphertext : T) (a b : Nat) (cursor : BlindDecryptCursor K) :
    (cursor.advance ciphertext (a + b)).1 =
      match cursor.advance ciphertext a with
      | (.ok .pending, cursor, _) => (cursor.advance ciphertext b).1
      | (result, _, _) => result := by
  induction a generalizing cursor with
  | zero => simp [BlindDecryptCursor.advance]
  | succ a ih =>
      rw [Nat.add_right_comm, BlindDecryptCursor.advance, BlindDecryptCursor.advance]
      cases hturn : cursor.turn ciphertext with
      | tried next => exact ih next
      | ended result next spent =>
          simp only
          split
          · rename_i heq
            cases heq
            exact absurd rfl (turn_ended_ne_pending hturn)
          · rename_i heq
            cases heq
            rfl

theorem search_eq_advance (ciphertext : T) (budgets : List Nat)
    (cursor : BlindDecryptCursor K) :
    search ciphertext budgets cursor = (cursor.advance ciphertext budgets.sum).1 := by
  induction budgets generalizing cursor with
  | nil => rfl
  | cons budget rest ih =>
      rw [List.sum_cons, advance_add, search]
      split
      · exact ih _
      · rfl

/-! The deque holds the entries of the retained map. -/

private theorem binarySearch_insert {number : Nat} (key : K) {deque : List (Nat × K)}
    (h : deque.Pairwise (fun a b => a.1 < b.1)) :
    (match binarySearchByKey deque number with
      | .ok index => deque.set index (number, key)
      | .error index => deque.insertIdx index (number, key)) =
      SortedMap.insertEntry number key deque := by
  induction deque with
  | nil => rfl
  | cons entry rest ih =>
      have ih := ih (List.pairwise_cons.mp h).2
      simp only [binarySearchByKey] at ih ⊢
      rw [List.findIdx_cons, SortedMap.insertEntry]
      by_cases hle : number ≤ entry.1
      · simp only [hle, decide_true, cond_true, List.getElem?_cons_zero]
        rcases hle.lt_or_eq with hlt | heq
        · rw [if_pos hlt, if_neg hlt.ne']
          rfl
        · rw [if_neg heq.not_lt, if_pos heq, if_pos heq.symm]
          rfl
      · have hgt : entry.1 < number := not_le.mp hle
        simp only [hle, decide_false, cond_false, List.getElem?_cons_succ]
        rw [if_neg hgt.not_gt, if_neg hgt.ne', ← ih]
        cases rest[rest.findIdx (fun entry => decide (number ≤ entry.1))]? with
        | none => rfl
        | some other =>
            by_cases heq : other.1 = number
            · simp [heq]
            · simp [heq]

private theorem insertFailedKey_eq (map : SortedMap Nat K) (number : Nat) (key : K) :
    BlindDecryptCursor.insertFailedKey map.entries number key =
      (map.insert number key).entries := by
  rw [BlindDecryptCursor.insertFailedKey]
  cases hlast : map.entries.getLast? with
  | none =>
      rw [List.getLast?_eq_none_iff] at hlast
      simp only [SortedMap.insert, hlast]
      rfl
  | some last =>
      simp only
      split
      · rename_i hlt
        refine (SortedMap.insertEntry_of_forall_lt ?_).symm
        intro e he
        obtain ⟨init, hinit⟩ := List.getLast?_eq_some_iff.mp hlast
        have hsorted := map.sorted
        rw [hinit] at hsorted he
        rcases List.mem_append.mp he with he | he
        · have hbefore := (List.pairwise_append.mp hsorted).2.2 e he last List.mem_cons_self
          exact hbefore.trans hlt
        · rw [List.mem_singleton.mp he]
          exact hlt
      · exact binarySearch_insert key map.sorted

theorem pruneSkipped_eq (cursor : BlindDecryptCursor K) (map : SortedMap Nat K)
    (h : cursor.skippedMessageKeys = map.entries) :
    cursor.pruneSkipped =
      { cursor with skippedMessageKeys := (pruneSkipped map).entries } := by
  rw [BlindDecryptCursor.pruneSkipped, NostrDoubleRatchet.pruneSkipped,
    SortedMap.entries_pruneTo, h, SortedMap.length]

theorem retainFailedKey_eq (cursor : BlindDecryptCursor K) (map : SortedMap Nat K)
    (number : Nat) (key : K) (h : cursor.skippedMessageKeys = map.entries) :
    cursor.retainFailedKey number key =
      { cursor with skippedMessageKeys := (pruneSkipped (map.insert number key)).entries } := by
  rw [BlindDecryptCursor.retainFailedKey, h, insertFailedKey_eq]
  exact pruneSkipped_eq _ (map.insert number key) rfl

theorem plannedState_none (cursor : BlindDecryptCursor K) (map : SortedMap Nat K)
    (h : cursor.skippedMessageKeys = map.entries) :
    cursor.plannedState none =
      ⟨cursor.keyId, cursor.chainKey, cursor.iteration, map⟩ := by
  have hmap : SortedMap.ofList (cursor.skippedMessageKeys.filter
      (fun entry => some entry.1 ≠ none)) = map := by
    apply SortedMap.eq_of_entries
    rw [h, List.filter_eq_self.mpr (by simp), SortedMap.entries_ofList map.sorted]
  rw [BlindDecryptCursor.plannedState, hmap]

theorem plannedState_some (cursor : BlindDecryptCursor K) (map : SortedMap Nat K)
    (number : Nat) (h : cursor.skippedMessageKeys = map.entries) :
    cursor.plannedState (some number) =
      ⟨cursor.keyId, cursor.chainKey, cursor.iteration, map.erase number⟩ := by
  have hmap : SortedMap.ofList (cursor.skippedMessageKeys.filter
      (fun entry => some entry.1 ≠ some number)) = map.erase number := by
    apply SortedMap.eq_of_entries
    rw [h, SortedMap.entries_ofList (map.sorted.filter _)]
    simp only [SortedMap.erase, SortedMap.filter, ne_eq, Option.some.injEq]
  rw [BlindDecryptCursor.plannedState, hmap]

/-! The two phases of the search. -/

/-- The map behind the deque when the chain has reached `n`. -/
def retainedMap (state : SenderKeyState K) (n : Nat) : SortedMap Nat K :=
  if n = state.iteration then state.skippedMessageKeys else pruneSkipped (state.skippedTo n)

/-- The cursor after the retained keys up to index `index` failed. -/
def retainedCursor (state : SenderKeyState K) (index : Nat) : BlindDecryptCursor K :=
  { BlindDecryptCursor.new state with nextSkipped := index }

/-- The cursor when the chain has reached `n`. -/
def forwardCursor (state : SenderKeyState K) (n : Nat) : BlindDecryptCursor K where
  keyId := state.keyId
  chainKey := KeyChain.chainKey deriveMessageKey state.chainKey (n - state.iteration)
  iteration := n
  skippedMessageKeys := (retainedMap state n).entries
  nextSkipped := state.skippedMessageKeys.length
  searchingSkipped := false
  maxMessageNumber := min (state.iteration + SENDER_KEY_MAX_SKIP) u32Max

/-- The cursor once the key of `n` is derived and the chain has moved on. -/
def steppedCursor (state : SenderKeyState K) (n : Nat) : BlindDecryptCursor K :=
  { forwardCursor state n with
    chainKey := (deriveMessageKey
      (KeyChain.chainKey deriveMessageKey state.chainKey (n - state.iteration))).1
    iteration := n + 1 }

private theorem skippedTo_iteration (state : SenderKeyState K) :
    state.skippedTo state.iteration = state.skippedMessageKeys := by
  rw [SenderKeyState.skippedTo, Nat.sub_self]
  rfl

private theorem skippedTo_succ (state : SenderKeyState K) {n : Nat}
    (h : state.iteration ≤ n) :
    state.skippedTo (n + 1) = (state.skippedTo n).insert n (state.forwardKey n) := by
  have hsub : n + 1 - state.iteration = n - state.iteration + 1 := by omega
  have hsum : state.iteration + (n - state.iteration) = n := by omega
  rw [SenderKeyState.skippedTo, hsub, KeyChain.skipKeys_succ, hsum]
  rfl

private theorem pruneSkipped_retainedMap (state : SenderKeyState K) (n : Nat) :
    pruneSkipped (retainedMap state n) = pruneSkipped (state.skippedTo n) := by
  rw [retainedMap]
  split
  · rename_i heq
    rw [heq, skippedTo_iteration]
  · apply SortedMap.pruneTo_of_le
    rw [pruneSkipped, SortedMap.length_pruneTo]
    exact min_le_left _ _

/-- Pruning after each failed key leaves what pruning once at the end leaves. -/
private theorem pruneSkipped_insert_retainedMap (state : SenderKeyState K) {n : Nat}
    (h : state.iteration ≤ n) :
    pruneSkipped ((retainedMap state n).insert n (state.forwardKey n)) =
      retainedMap state (n + 1) := by
  have hne : n + 1 ≠ state.iteration := by omega
  have hpruned := pruneSkipped_retainedMap state n
  rw [pruneSkipped] at hpruned
  rw [pruneSkipped, ← SortedMap.pruneTo_insert_pruneTo, hpruned, pruneSkipped,
    SortedMap.pruneTo_insert_pruneTo, retainedMap, if_neg hne, skippedTo_succ state h,
    pruneSkipped]

private theorem turn_retained (state : SenderKeyState K) (ciphertext : T) {index number : Nat}
    {key : K} (h : state.skippedMessageKeys.entries[index]? = some (number, key)) :
    (retainedCursor state index).turn ciphertext =
      match decryptWithMessageKey key ciphertext with
      | .ok plaintext =>
          .ended (.ok (.complete
            ⟨state.consumeState number, state.keyId, number, plaintext⟩))
            (retainedCursor state (index + 1)) true
      | .error _ => .tried (retainedCursor state (index + 1)) := by
  have hget : (retainedCursor state index).skippedMessageKeys[
      (retainedCursor state index).nextSkipped]? = some (number, key) := h
  have hsearching : (retainedCursor state index).searchingSkipped = true := rfl
  have hplanned := plannedState_some (retainedCursor state (index + 1))
    state.skippedMessageKeys number rfl
  rw [BlindDecryptCursor.turn, hget, hsearching]
  change (match decryptWithMessageKey key ciphertext with
    | .ok plaintext => BlindTurn.ended (.ok (.complete
        ⟨(retainedCursor state (index + 1)).plannedState (some number), _, _, plaintext⟩)) _ _
    | .error _ => .tried (retainedCursor state (index + 1))) = _
  rw [hplanned]
  rfl

private theorem turn_retained_end (state : SenderKeyState K) (ciphertext : T) :
    (retainedCursor state state.skippedMessageKeys.length).turn ciphertext =
      (forwardCursor state state.iteration).turn ciphertext := by
  have hget : (retainedCursor state state.skippedMessageKeys.length).skippedMessageKeys[
      (retainedCursor state state.skippedMessageKeys.length).nextSkipped]? = none :=
    List.getElem?_eq_none le_rfl
  have hcursor : { retainedCursor state state.skippedMessageKeys.length with
      searchingSkipped := false } = forwardCursor state state.iteration := by
    simp only [retainedCursor, BlindDecryptCursor.new, forwardCursor, retainedMap,
      if_true, Nat.sub_self, KeyChain.chainKey_zero]
  rw [BlindDecryptCursor.turn, hget, BlindDecryptCursor.turn]
  simp only [hcursor]
  rfl

private theorem steppedCursor_retain (state : SenderKeyState K) {n : Nat}
    (h : state.iteration ≤ n) :
    (steppedCursor state n).retainFailedKey n (state.forwardKey n) =
      forwardCursor state (n + 1) := by
  have hsub : n + 1 - state.iteration = n - state.iteration + 1 := by omega
  rw [retainFailedKey_eq _ (retainedMap state n) _ _ rfl,
    pruneSkipped_insert_retainedMap state h, forwardCursor, hsub, KeyChain.chainKey_succ]
  rfl

private theorem steppedCursor_planned (state : SenderKeyState K) (n : Nat) :
    (steppedCursor state n).pruneSkipped.plannedState none = state.forwardState n := by
  have hpruned := pruneSkipped_eq (steppedCursor state n) (retainedMap state n) rfl
  have hentries : (steppedCursor state n).pruneSkipped.skippedMessageKeys =
      (pruneSkipped (state.skippedTo n)).entries := by
    rw [hpruned, pruneSkipped_retainedMap]
  rw [plannedState_none _ _ hentries, hpruned, SenderKeyState.forwardState,
    KeyChain.chainKey_succ]
  rfl

private theorem turn_forward (state : SenderKeyState K) (ciphertext : T) {n : Nat}
    (hle : state.iteration ≤ n) (hskip : n ≤ state.iteration + SENDER_KEY_MAX_SKIP)
    (hmax : n < u32Max) :
    (forwardCursor state n).turn ciphertext =
      match decryptWithMessageKey (state.forwardKey n) ciphertext with
      | .ok plaintext =>
          .ended (.ok (.complete ⟨state.forwardState n, state.keyId, n, plaintext⟩))
            (steppedCursor state n).pruneSkipped true
      | .error _ => .tried (forwardCursor state (n + 1)) := by
  have hwindow : ¬ (forwardCursor state n).iteration >
      (forwardCursor state n).maxMessageNumber :=
    not_lt.mpr (le_min hskip hmax.le)
  have hsucc : u32CheckedSucc (forwardCursor state n).iteration
      (.decryption "sender-key iteration overflow") = .ok (n + 1) :=
    if_pos hmax
  change BlindDecryptCursor.tryForward ciphertext (forwardCursor state n) = _
  rw [← steppedCursor_planned, ← steppedCursor_retain state hle]
  simp only [BlindDecryptCursor.tryForward, if_neg hwindow, hsucc]
  rfl

private theorem turn_forward_end (state : SenderKeyState K) (ciphertext : T) :
    ∃ cursor spent,
      (forwardCursor state (state.iteration + windowSize state)).turn ciphertext =
        .ended (lastStep state) cursor spent := by
  change ∃ cursor spent, BlindDecryptCursor.tryForward ciphertext
    (forwardCursor state (state.iteration + windowSize state)) = _
  rw [BlindDecryptCursor.tryForward, lastStep]
  by_cases hmax : state.iteration ≤ u32Max ∧ u32Max ≤ state.iteration + SENDER_KEY_MAX_SKIP
  · have hwindow : state.iteration + windowSize state = u32Max := by
      rw [windowSize]
      omega
    have hle : ¬ (forwardCursor state u32Max).iteration >
        (forwardCursor state u32Max).maxMessageNumber :=
      not_lt.mpr (le_min hmax.2 le_rfl)
    have hsucc : u32CheckedSucc (forwardCursor state u32Max).iteration
        (.decryption "sender-key iteration overflow") =
          .error (.decryption "sender-key iteration overflow") :=
      if_neg (lt_irrefl _)
    simp only [hwindow, if_neg hle, hsucc, if_pos hmax]
    exact ⟨_, _, rfl⟩
  · have hgt : (forwardCursor state (state.iteration + windowSize state)).iteration >
        (forwardCursor state (state.iteration + windowSize state)).maxMessageNumber := by
      change min (state.iteration + SENDER_KEY_MAX_SKIP) u32Max <
        state.iteration + windowSize state
      rw [windowSize]
      omega
    rw [if_pos hgt, if_neg hmax]
    exact ⟨_, _, rfl⟩

/-! The cursor runs through the list of trials. -/

private theorem advance_forward (state : SenderKeyState K) (ciphertext : T)
    (budget done : Nat) (h : done ≤ windowSize state) :
    ((forwardCursor state (state.iteration + done)).advance ciphertext budget).1 =
      runTrials state ciphertext budget
        (forwardTrials state (state.iteration + done) (windowSize state - done)) := by
  induction budget generalizing done with
  | zero => rfl
  | succ budget ih =>
      rw [BlindDecryptCursor.advance]
      rcases h.eq_or_lt with heq | hlt
      · obtain ⟨cursor, spent, hturn⟩ := turn_forward_end state ciphertext
        rw [heq, hturn, Nat.sub_self]
        rfl
      · have hwindow : done < SENDER_KEY_MAX_SKIP + 1 ∧ done < u32Max - state.iteration :=
          lt_min_iff.mp hlt
        have hrest : windowSize state - done = windowSize state - (done + 1) + 1 := by omega
        rw [turn_forward state ciphertext (by omega) (by omega) (by omega), hrest,
          forwardTrials, List.range'_succ, List.map_cons, runTrials]
        simp only
        cases decryptWithMessageKey (state.forwardKey (state.iteration + done)) ciphertext with
        | ok plaintext => rfl
        | error e => exact ih (done + 1) hlt

private theorem advance_retained (state : SenderKeyState K) (ciphertext : T)
    (budget index : Nat) (h : index ≤ state.skippedMessageKeys.length) :
    ((retainedCursor state index).advance ciphertext budget).1 =
      runTrials state ciphertext budget
        (retainedTrials state (state.skippedMessageKeys.entries.drop index) ++
          forwardTrials state state.iteration (windowSize state)) := by
  induction budget generalizing index with
  | zero => rfl
  | succ budget ih =>
      rcases h.eq_or_lt with heq | hlt
      · have hnil : state.skippedMessageKeys.entries.drop state.skippedMessageKeys.length = [] :=
          List.drop_length
        have hforward := advance_forward state ciphertext (budget + 1) 0 (Nat.zero_le _)
        rw [BlindDecryptCursor.advance] at hforward ⊢
        rw [heq, turn_retained_end, hnil]
        exact hforward
      · have hget : state.skippedMessageKeys.entries[index]? =
            some state.skippedMessageKeys.entries[index] := List.getElem?_eq_getElem hlt
        rw [BlindDecryptCursor.advance, turn_retained state ciphertext hget,
          List.drop_eq_getElem_cons hlt, retainedTrials, List.map_cons, List.cons_append,
          runTrials]
        simp only
        cases decryptWithMessageKey state.skippedMessageKeys.entries[index].2 ciphertext with
        | ok plaintext => rfl
        | error e => exact ih (index + 1) hlt

/-- Every way of splitting the budget runs through the trials in order. -/
theorem search_eq_runTrials (state : SenderKeyState K) (ciphertext : T) (budgets : List Nat) :
    search ciphertext budgets (BlindDecryptCursor.new state) =
      runTrials state ciphertext budgets.sum (trials state) := by
  rw [search_eq_advance]
  exact advance_retained state ciphertext budgets.sum 0 (Nat.zero_le _)

/-! Candidates. -/

/-- A key the search may open a ciphertext with: a retained one, whatever its
number, or the forward key of a position in the window. -/
inductive Candidate where
  | retained (number : Nat)
  | forward (number : Nat)

namespace Candidate

def number : Candidate → Nat
  | retained n => n
  | forward n => n

def key (state : SenderKeyState K) : Candidate → Option K
  | retained n => state.skippedMessageKeys.get? n
  | forward n =>
      if state.iteration ≤ n ∧ n ≤ state.iteration + SENDER_KEY_MAX_SKIP ∧ n < u32Max then
        some (state.forwardKey n)
      else none

def next (state : SenderKeyState K) : Candidate → SenderKeyState K
  | retained n => state.consumeState n
  | forward n => state.forwardState n

/-- Positioned decryption looks at a retained key only below `iteration`. -/
def Positioned (state : SenderKeyState K) : Candidate → Prop
  | retained n => n < state.iteration
  | forward _ => True

/-- The ciphertext opens under the candidate's key. -/
def Authenticates (state : SenderKeyState K) (ciphertext plaintext : T)
    (candidate : Candidate) : Prop :=
  ∃ key, candidate.key state = some key ∧ decryptWithMessageKey key ciphertext = .ok plaintext

end Candidate

theorem mem_trials (state : SenderKeyState K) (trial : Trial K) :
    trial ∈ trials state ↔ ∃ candidate : Candidate, ∃ key, candidate.key state = some key ∧
      trial = ⟨candidate.number, key, candidate.next state⟩ := by
  rw [trials, List.mem_append, retainedTrials, forwardTrials, List.mem_map, List.mem_map]
  constructor
  · rintro (⟨⟨n, key⟩, hmem, rfl⟩ | ⟨n, hmem, rfl⟩)
    · exact ⟨.retained n, key, SortedMap.mem_entries.mp hmem, rfl⟩
    · rw [List.mem_range'_1, windowSize] at hmem
      exact ⟨.forward n, state.forwardKey n, if_pos (by omega), rfl⟩
  · rintro ⟨n | n, key, hkey, rfl⟩
    · exact Or.inl ⟨(n, key), SortedMap.mem_entries.mpr hkey, rfl⟩
    · simp only [Candidate.key] at hkey
      split at hkey
      · cases hkey
        refine Or.inr ⟨n, ?_, rfl⟩
        rw [List.mem_range'_1, windowSize]
        omega
      · cases hkey

theorem length_trials_le (state : SenderKeyState K) :
    (trials state).length ≤ state.skippedMessageKeys.length + SENDER_KEY_MAX_SKIP + 1 := by
  have hwindow : windowSize state ≤ SENDER_KEY_MAX_SKIP + 1 := min_le_left _ _
  have hretained : state.skippedMessageKeys.entries.length =
    state.skippedMessageKeys.length := rfl
  simp only [trials, retainedTrials, forwardTrials, List.length_append, List.length_map,
    List.length_range']
  omega

/-- The search suspends only when the budget is short, ends without a plan only
when every key failed, and completes with the plan of a trial that opened the
ciphertext. -/
theorem runTrials_cases (state : SenderKeyState K) (ciphertext : T) (budget : Nat)
    (list : List (Trial K)) :
    (runTrials state ciphertext budget list = .ok .pending ∧ budget ≤ list.length) ∨
      (runTrials state ciphertext budget list = lastStep state ∧
        ∀ trial ∈ list, ∀ plaintext,
          decryptWithMessageKey trial.key ciphertext ≠ .ok plaintext) ∨
      ∃ trial ∈ list, ∃ plaintext,
        decryptWithMessageKey trial.key ciphertext = .ok plaintext ∧
          runTrials state ciphertext budget list =
            .ok (.complete ⟨trial.next, state.keyId, trial.number, plaintext⟩) := by
  induction budget generalizing list with
  | zero => exact Or.inl ⟨rfl, Nat.zero_le _⟩
  | succ budget ih =>
      cases list with
      | nil => exact Or.inr (Or.inl ⟨rfl, by simp⟩)
      | cons trial rest =>
          rw [runTrials]
          cases hdec : decryptWithMessageKey trial.key ciphertext with
          | ok plaintext =>
              exact Or.inr (Or.inr ⟨trial, List.mem_cons_self, plaintext, hdec, rfl⟩)
          | error e =>
              rcases ih rest with ⟨hpending, hle⟩ | ⟨hlast, hfail⟩ | ⟨t, hmem, p, hp, heq⟩
              · exact Or.inl ⟨hpending, Nat.succ_le_succ hle⟩
              · refine Or.inr (Or.inl ⟨hlast, ?_⟩)
                intro t ht p hp
                rcases List.mem_cons.mp ht with rfl | ht
                · rw [hdec] at hp
                  cases hp
                · exact hfail t ht p hp
              · exact Or.inr (Or.inr ⟨t, List.mem_cons_of_mem _ hmem, p, hp, heq⟩)

/-- Beyond the number of trials a larger budget changes nothing. -/
theorem runTrials_stable (state : SenderKeyState K) (ciphertext : T) (a b : Nat)
    (list : List (Trial K)) (ha : list.length < a) (hb : list.length < b) :
    runTrials state ciphertext a list = runTrials state ciphertext b list := by
  induction list generalizing a b with
  | nil =>
      obtain _ | a := a
      · exact absurd ha (Nat.not_lt_zero _)
      obtain _ | b := b
      · exact absurd hb (Nat.not_lt_zero _)
      rfl
  | cons trial rest ih =>
      obtain _ | a := a
      · exact absurd ha (Nat.not_lt_zero _)
      obtain _ | b := b
      · exact absurd hb (Nat.not_lt_zero _)
      rw [runTrials, runTrials, ih a b (Nat.lt_of_succ_lt_succ ha) (Nat.lt_of_succ_lt_succ hb)]

private theorem planDecrypt_of_positioned {state : SenderKeyState K} {ciphertext plaintext : T}
    {candidate : Candidate} (h : candidate.Authenticates state ciphertext plaintext)
    (hpos : candidate.Positioned state) :
    state.planDecrypt ⟨state.keyId, candidate.number, ciphertext⟩ =
      .ok ⟨candidate.next state, plaintext⟩ := by
  obtain ⟨key, hkey, hdec⟩ := h
  refine SenderKeyState.planDecrypt_eq_ok.mpr ⟨rfl, ?_⟩
  cases candidate with
  | retained n => exact Or.inl ⟨hpos, ⟨key, hkey, hdec⟩, rfl⟩
  | forward n =>
      simp only [Candidate.key] at hkey
      split at hkey
      · rename_i hwindow
        cases hkey
        refine Or.inr ⟨hwindow.1, ?_, hwindow.2.2, hdec, rfl⟩
        simp only [Candidate.number]
        omega
      · cases hkey

private theorem planDecryptBlind_eq_ok {state : SenderKeyState K} {ciphertext : T}
    {plan : SenderKeyBlindDecryptPlan K T} :
    state.planDecryptBlind ciphertext = .ok plan ↔
      runTrials state ciphertext (2 ^ 64 - 1) (trials state) = .ok (.complete plan) := by
  have hsearch := advance_retained state ciphertext (2 ^ 64 - 1) 0 (Nat.zero_le _)
  change ((BlindDecryptCursor.new state).advance ciphertext (2 ^ 64 - 1)).1 =
    runTrials state ciphertext (2 ^ 64 - 1) (trials state) at hsearch
  rw [SenderKeyState.planDecryptBlind, hsearch, except_bind_eq_ok]
  constructor
  · rintro ⟨step, hstep, hplan⟩
    cases step with
    | complete other =>
        cases hplan
        exact hstep
    | pending => cases hplan
    | exhausted => cases hplan
  · intro h
    exact ⟨.complete plan, h, rfl⟩

/-- A restored state whose only retained key has a number above `iteration`. -/
def aheadState : SenderKeyState KeyTerm :=
  ⟨0, .secret 0, 0, SortedMap.empty.insert 5 (.secret 7)⟩

end NostrDoubleRatchet.BlindSearch
