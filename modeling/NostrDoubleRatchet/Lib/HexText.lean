import Mathlib.Data.List.Basic

/-!
Bytes written as a text of hexadecimal digits, two for each byte, and read back.
-/

namespace HexText

/-- The digit of a number below sixteen. -/
def digit (n : Nat) : Char :=
  if n < 10 then Char.ofNat (n + 48) else Char.ofNat (n + 87)

def value (c : Char) : Option Nat :=
  let n := c.toNat
  if 48 ≤ n ∧ n ≤ 57 then some (n - 48)
  else if 97 ≤ n ∧ n ≤ 102 then some (n - 87)
  else if 65 ≤ n ∧ n ≤ 70 then some (n - 55)
  else none

def digits (bytes : List UInt8) : List Char :=
  bytes.flatMap (fun byte => [digit (byte.toNat / 16), digit (byte.toNat % 16)])

def encode (bytes : List UInt8) : String := String.ofList (digits bytes)

def bytes : List Char → Option (List UInt8)
  | [] => some []
  | high :: low :: rest => do
      let high ← value high
      let low ← value low
      let rest ← bytes rest
      pure (UInt8.ofNat (high * 16 + low) :: rest)
  | [_] => none

def decode (text : String) : Option (List UInt8) := bytes text.toList

theorem value_digit {n : Nat} (h : n < 16) : value (digit n) = some n := by
  have hall : ∀ n : Fin 16, value (digit n.val) = some n.val := by decide
  exact hall ⟨n, h⟩

theorem bytes_digits (data : List UInt8) : bytes (digits data) = some data := by
  induction data with
  | nil => rfl
  | cons byte rest ih =>
      have hhigh : byte.toNat / 16 < 16 := by
        have hbyte : byte.toNat < 256 := byte.toNat_lt
        omega
      have hlow : byte.toNat % 16 < 16 := Nat.mod_lt _ (by decide)
      have hsum : byte.toNat / 16 * 16 + byte.toNat % 16 = byte.toNat := by omega
      change bytes (digit (byte.toNat / 16) :: digit (byte.toNat % 16) :: digits rest) = _
      rw [bytes, value_digit hhigh, value_digit hlow, ih]
      change some (UInt8.ofNat (byte.toNat / 16 * 16 + byte.toNat % 16) :: rest) = _
      rw [hsum, UInt8.ofNat_toNat]

/-- What is written is read back. -/
theorem decode_encode (data : List UInt8) : decode (encode data) = some data := by
  rw [decode, encode, String.toList_ofList, bytes_digits]

end HexText
