import Mathlib.Logic.Function.Iterate
import NostrDoubleRatchet.Lib.SortedMap

/-!
A symmetric key chain: one step turns a chain key into the next chain key and
the message key of the current position. `skipKeys` walks a chain and stores
the message key of every position it passes.
-/

namespace KeyChain

variable {α β : Type}

/-- The chain key after `n` steps. -/
def chainKey (step : α → α × β) (start : α) (n : Nat) : α :=
  (fun key => (step key).1)^[n] start

/-- The message key of position `n`. -/
def messageKey (step : α → α × β) (start : α) (n : Nat) : β :=
  (step (chainKey step start n)).2

@[simp] theorem chainKey_zero (step : α → α × β) (start : α) :
    chainKey step start 0 = start := rfl

theorem chainKey_succ (step : α → α × β) (start : α) (n : Nat) :
    chainKey step start (n + 1) = (step (chainKey step start n)).1 := by
  rw [chainKey, Function.iterate_succ_apply']
  rfl

theorem chainKey_step (step : α → α × β) (start : α) (n : Nat) :
    chainKey step (step start).1 n = chainKey step start (n + 1) := by
  rw [chainKey, chainKey, Function.iterate_succ_apply]

theorem chainKey_chainKey (step : α → α × β) (start : α) (n k : Nat) :
    chainKey step (chainKey step start n) k = chainKey step start (n + k) := by
  rw [chainKey, chainKey, chainKey, Nat.add_comm, Function.iterate_add_apply]

theorem messageKey_chainKey (step : α → α × β) (start : α) (n k : Nat) :
    messageKey step (chainKey step start n) k = messageKey step start (n + k) := by
  rw [messageKey, messageKey, chainKey_chainKey]

theorem messageKey_step (step : α → α × β) (start : α) (n : Nat) :
    messageKey step (step start).1 n = messageKey step start (n + 1) := by
  rw [messageKey, messageKey, chainKey_step]

/-- Walk `n` positions from number `i`, storing each message key passed. -/
def skipKeys (step : α → α × β) :
    Nat → α → Nat → SortedMap Nat β → α × Nat × SortedMap Nat β
  | 0, key, i, stored => (key, i, stored)
  | n + 1, key, i, stored =>
      skipKeys step n (step key).1 (i + 1) (stored.insert i (step key).2)

theorem skipKeys_chainKey (step : α → α × β) (n i : Nat) (key : α)
    (stored : SortedMap Nat β) :
    (skipKeys step n key i stored).1 = chainKey step key n := by
  induction n generalizing key i stored with
  | zero => rfl
  | succ n ih => rw [skipKeys, ih, chainKey_step]

theorem skipKeys_number (step : α → α × β) (n i : Nat) (key : α)
    (stored : SortedMap Nat β) :
    (skipKeys step n key i stored).2.1 = i + n := by
  induction n generalizing key i stored with
  | zero => rfl
  | succ n ih =>
      rw [skipKeys, ih]
      omega

/-- After the walk, the numbers passed hold their message keys and every other
number holds what it held before. -/
theorem get?_skipKeys (step : α → α × β) (n i x : Nat) (key : α)
    (stored : SortedMap Nat β) :
    (skipKeys step n key i stored).2.2.get? x =
      if i ≤ x ∧ x < i + n then some (messageKey step key (x - i)) else stored.get? x := by
  induction n generalizing key i stored with
  | zero =>
      have hout : ¬ (i ≤ x ∧ x < i + 0) := by omega
      rw [if_neg hout]
      rfl
  | succ n ih =>
      rw [skipKeys, ih, messageKey_step, SortedMap.get?_insert]
      by_cases hx : i = x
      · subst hx
        have hout : ¬ (i + 1 ≤ i ∧ i < i + 1 + n) := by omega
        have hin : i ≤ i ∧ i < i + (n + 1) := by omega
        rw [if_neg hout, if_pos rfl, if_pos hin, Nat.sub_self]
        rfl
      · by_cases hin : i + 1 ≤ x ∧ x < i + 1 + n
        · have hin' : i ≤ x ∧ x < i + (n + 1) := by omega
          have hsub : x - (i + 1) + 1 = x - i := by omega
          rw [if_pos hin, if_pos hin', hsub]
        · have hout : ¬ (i ≤ x ∧ x < i + (n + 1)) := by omega
          rw [if_neg hin, if_neg hx, if_neg hout]

theorem skipKeys_succ (step : α → α × β) (n i : Nat) (key : α)
    (stored : SortedMap Nat β) :
    (skipKeys step (n + 1) key i stored).2.2 =
      (skipKeys step n key i stored).2.2.insert (i + n) (messageKey step key n) := by
  induction n generalizing key i stored with
  | zero => rfl
  | succ n ih =>
      rw [skipKeys, ih, messageKey_step]
      have hnum : i + 1 + n = i + (n + 1) := by omega
      rw [hnum]
      rfl

end KeyChain
