import NostrDoubleRatchet.SenderKey.State

/-!
The resumable search of `sender_key/blind.rs`: a cursor tries the retained keys
in order and then the forward keys of the recovery window, one trial at a time.
-/

namespace NostrDoubleRatchet

structure BlindDecryptCursor (K : Type) where
  keyId : Nat
  chainKey : K
  iteration : Nat
  skippedMessageKeys : List (Nat × K)
  nextSkipped : Nat
  searchingSkipped : Bool
  maxMessageNumber : Nat

inductive BlindDecryptStep (K T : Type) where
  | pending
  | exhausted
  | complete (plan : SenderKeyBlindDecryptPlan K T)

/-- How a turn of the search loop leaves it: another key has been tried, or
`advance` returns, with or without spending a trial. -/
inductive BlindTurn (K T : Type) where
  | tried (cursor : BlindDecryptCursor K)
  | ended (result : Except Error (BlindDecryptStep K T)) (cursor : BlindDecryptCursor K)
      (spent : Bool)

section

variable {K T : Type} [Primitives K T]

/-- `VecDeque::binary_search_by_key` on a deque in increasing number order: the
index of the number, or the index where it would be inserted. -/
def binarySearchByKey (deque : List (Nat × K)) (number : Nat) : Except Nat Nat :=
  let index := deque.findIdx (fun entry => number ≤ entry.1)
  match deque[index]? with
  | some entry => if entry.1 = number then .ok index else .error index
  | none => .error index

namespace BlindDecryptCursor

def new (state : SenderKeyState K) : BlindDecryptCursor K where
  keyId := state.keyId
  chainKey := state.chainKey
  iteration := state.iteration
  skippedMessageKeys := state.skippedMessageKeys.entries
  nextSkipped := 0
  searchingSkipped := true
  maxMessageNumber := min (state.iteration + SENDER_KEY_MAX_SKIP) u32Max

def plannedState (cursor : BlindDecryptCursor K) (consumedSkipped : Option Nat) :
    SenderKeyState K where
  keyId := cursor.keyId
  chainKey := cursor.chainKey
  iteration := cursor.iteration
  skippedMessageKeys := SortedMap.ofList
    (cursor.skippedMessageKeys.filter (fun entry => some entry.1 ≠ consumedSkipped))

/-- The `while` loop pops the front until the cap is met. -/
def pruneSkipped (cursor : BlindDecryptCursor K) : BlindDecryptCursor K :=
  let deque := cursor.skippedMessageKeys
  let excess := deque.length - SENDER_KEY_MAX_STORED_SKIPPED_KEYS
  { cursor with skippedMessageKeys := deque.drop excess }

/-- A failed key goes to the back when it is newest, and otherwise to its place
in number order. -/
def insertFailedKey (deque : List (Nat × K)) (number : Nat) (key : K) : List (Nat × K) :=
  match deque.getLast? with
  | none => deque ++ [(number, key)]
  | some last =>
      if last.1 < number then deque ++ [(number, key)]
      else match binarySearchByKey deque number with
        | .ok index => deque.set index (number, key)
        | .error index => deque.insertIdx index (number, key)

def retainFailedKey (cursor : BlindDecryptCursor K) (number : Nat) (key : K) :
    BlindDecryptCursor K :=
  pruneSkipped { cursor with
    skippedMessageKeys := insertFailedKey cursor.skippedMessageKeys number key }

/-- One turn of the loop in the forward phase. -/
def tryForward (ciphertext : T) (cursor : BlindDecryptCursor K) : BlindTurn K T :=
  if cursor.iteration > cursor.maxMessageNumber then .ended (.ok .exhausted) cursor false
  else
    let number := cursor.iteration
    let (chainKey, messageKey) := deriveMessageKey cursor.chainKey
    let cursor := { cursor with chainKey := chainKey }
    match u32CheckedSucc number (.decryption "sender-key iteration overflow") with
    | .error e => .ended (.error e) cursor true
    | .ok iteration =>
        let cursor := { cursor with iteration := iteration }
        match decryptWithMessageKey messageKey ciphertext with
        | .ok plaintext =>
            let cursor := cursor.pruneSkipped
            .ended (.ok (.complete {
              nextState := cursor.plannedState none
              keyId := cursor.keyId
              messageNumber := number
              plaintext := plaintext })) cursor true
        | .error _ => .tried (cursor.retainFailedKey number messageKey)

/-- One turn of the loop: a retained key while there is one, then forward keys. -/
def turn (ciphertext : T) (cursor : BlindDecryptCursor K) : BlindTurn K T :=
  match cursor.searchingSkipped, cursor.skippedMessageKeys[cursor.nextSkipped]? with
  | true, some (number, key) =>
      let cursor := { cursor with nextSkipped := cursor.nextSkipped + 1 }
      match decryptWithMessageKey key ciphertext with
      | .ok plaintext => .ended (.ok (.complete {
          keyId := cursor.keyId
          nextState := cursor.plannedState (some number)
          messageNumber := number
          plaintext := plaintext })) cursor true
      | .error _ => .tried cursor
  | _, _ => tryForward ciphertext { cursor with searchingSkipped := false }

/-- `advance`: run the loop while `remaining` allows another trial. The result
is the step or error, the cursor left behind and the trials left. -/
def advance (ciphertext : T) :
    Nat → BlindDecryptCursor K → Except Error (BlindDecryptStep K T) × BlindDecryptCursor K × Nat
  | 0, cursor => (.ok .pending, cursor, 0)
  | remaining + 1, cursor =>
      match cursor.turn ciphertext with
      | .tried cursor => advance ciphertext remaining cursor
      | .ended result cursor spent =>
          (result, cursor, if spent then remaining else remaining + 1)

end BlindDecryptCursor

/-- `plan_decrypt_blind`: one call with the largest budget. -/
def SenderKeyState.planDecryptBlind (state : SenderKeyState K) (ciphertext : T) :
    Except Error (SenderKeyBlindDecryptPlan K T) := do
  match ← ((BlindDecryptCursor.new state).advance ciphertext (2 ^ 64 - 1)).1 with
  | .complete plan => pure plan
  | _ => .error (.decryption "sender-key blind decrypt failed")

end

end NostrDoubleRatchet
