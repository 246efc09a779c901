import Mathlib.Algebra.Order.Ring.Nat
import Mathlib.Data.Stream.Init
import Mathlib.Order.Basic
import Mathlib.Order.Lattice
import NostrDoubleRatchet.Lib.SortedMap

/-!
The vocabulary the crate's modules share: errors, key identifiers and the
primitives taken from the `nostr`, `hkdf` and `rand` crates. A 32-byte array is
a value of the type parameter `K`; a byte string or text that only the
primitives look into (payload, ciphertext, base64 text) is a value of `T`.
-/

namespace NostrDoubleRatchet

inductive DomainError where
  | sessionNotReady
  | cannotSendYet
  | unexpectedSender
  | tooManySkippedMessages
  | inviteAlreadyUsed
  | inviteExhausted
  | invalidGroupOperation (message : String)
  | pendingGroupRevision (groupId : String) (currentRevision requiredRevision : Nat)
  | invalidState (message : String)
  deriving DecidableEq, Repr

inductive Error where
  | domain (error : DomainError)
  | parse (message : String)
  | encryption (message : String)
  | decryption (message : String)
  | invalidEvent (message : String)
  | invite (message : String)
  | json (message : String)
  | hex (message : String)
  | nostrKey (message : String)
  | nostr (message : String)
  | nip44 (message : String)
  deriving DecidableEq, Repr

abbrev UnixSeconds := Nat

/-- `u32::MAX`. -/
def u32Max : Nat := 2 ^ 32 - 1

/-- The `+= 1` of an unchecked `u32` counter. -/
def u32Succ (n : Nat) : Nat := (n + 1) % 2 ^ 32

/-- `checked_add(1).ok_or_else(..)` on a `u32`. -/
def u32CheckedSucc (n : Nat) (overflow : Error) : Except Error Nat :=
  if n < u32Max then .ok (n + 1) else .error overflow

structure OwnerPubkey (K : Type) where
  bytes : K
  deriving DecidableEq, Repr

structure DevicePubkey (K : Type) where
  bytes : K
  deriving DecidableEq, Repr

instance {K : Type} [LinearOrder K] : LinearOrder (OwnerPubkey K) where
  __ := PartialOrder.lift OwnerPubkey.bytes (fun a b h => by cases a; cases b; cases h; rfl)
  le_total a b := le_total a.bytes b.bytes
  toDecidableLE a b := inferInstanceAs (Decidable (a.bytes ≤ b.bytes))
  toDecidableEq := inferInstance

instance {K : Type} [LinearOrder K] : LinearOrder (DevicePubkey K) where
  __ := PartialOrder.lift DevicePubkey.bytes (fun a b h => by cases a; cases b; cases h; rfl)
  le_total a b := le_total a.bytes b.bytes
  toDecidableLE a b := inferInstanceAs (Decidable (a.bytes ≤ b.bytes))
  toDecidableEq := inferInstance

instance {K : Type} [LinearOrder K] : LawfulBEq (DevicePubkey K) := inferInstance

def ownerPubkeyFromDevicePubkey {K : Type} (device : DevicePubkey K) : OwnerPubkey K :=
  ⟨device.bytes⟩

/-- The salts the crate passes to HKDF. -/
inductive Salt (K : Type) where
  | byte (value : Nat)
  | label (text : String)
  | key (bytes : K)
  deriving DecidableEq, Repr

structure Header (K : Type) where
  number : Nat
  previousChainLength : Nat
  nextPublicKey : DevicePubkey K
  deriving DecidableEq, Repr

/-- Third-party operations. `encryptToBytes` and `nip44Encrypt` take the nonce
that the library draws from the system generator as an argument. -/
class Primitives (K : Type) (T : outParam Type) where
  secretKeyFromSlice : K → Except String K
  publicKeyFromSlice : K → Except String K
  publicKey : K → K
  conversationKey : K → K → Except String K
  hkdf : K → Salt K → Nat → K
  encryptToBytes : K → K → T → Except String T
  decryptToBytes : K → T → Except String T
  nip44Encrypt : K → K → K → T → Except String T
  nip44Decrypt : K → K → T → Except String T
  base64Encode : T → T
  base64Decode : T → Except String T
  headerToJson : Header K → T
  headerFromJson : T → Except String (Header K)
  sha256 : String → List K → K
  scalarFromBytes : K → Option K
  isZeroScalar : K → Bool
  xonlyIsValid : K → Bool
  xonlyAddTweak : K → K → Option K
  hasOddY : K → Bool
  negateSecret : K → K
  secretAddTweak : K → K → Option K
  toHex : K → String

section Utils

variable {K T : Type} [Primitives K T]

def kdf2 (input1 : K) (input2 : Salt K) : K × K :=
  (Primitives.hkdf input1 input2 1, Primitives.hkdf input1 input2 2)

def secretKeyFromBytes (bytes : K) : Except Error K :=
  (Primitives.secretKeyFromSlice bytes).mapError Error.nostrKey

def devicePubkeyFromSecretBytes (bytes : K) : Except Error (DevicePubkey K) := do
  let secret ← secretKeyFromBytes bytes
  pure ⟨Primitives.publicKey secret⟩

def DevicePubkey.toNostr (device : DevicePubkey K) : Except Error K :=
  (Primitives.publicKeyFromSlice device.bytes).mapError Error.parse

def OwnerPubkey.toNostr (owner : OwnerPubkey K) : Except Error K :=
  (Primitives.publicKeyFromSlice owner.bytes).mapError Error.parse

def deriveConversationKey (ours theirs : K) : Except Error K :=
  (Primitives.conversationKey ours theirs).mapError Error.nip44

/-- NIP-44 decrypts what it encrypted under the same key. -/
def Nip44RoundTrip (K : Type) {T : Type} [Primitives K T] : Prop :=
  ∀ (key nonce : K) (plaintext ciphertext : T),
    Primitives.encryptToBytes key nonce plaintext = .ok ciphertext →
      Primitives.decryptToBytes key ciphertext = .ok plaintext

end Utils

/-- A random generator, given by what its successive calls return: the valid
secret keys of `random_secret_key_bytes`, the words of `next_u64`, the auxiliary
bytes of a Schnorr signature, and the nonces NIP-44 takes from the system. -/
structure Rng (K : Type) where
  secretKeys : Stream' K
  words : Stream' Nat
  aux : Stream' K
  nonces : Stream' K

/-- Fallible code that draws from a generator. What was drawn stays drawn when
the code fails. -/
abbrev RandM (K : Type) := ExceptT Error (StateM (Rng K))

def randomSecretKeyBytes {K : Type} : RandM K K := fun rng =>
  (.ok rng.secretKeys.head, { rng with secretKeys := rng.secretKeys.tail })

def nextU64 {K : Type} : RandM K Nat := fun rng =>
  (.ok rng.words.head, { rng with words := rng.words.tail })

def randomAux {K : Type} : RandM K K := fun rng =>
  (.ok rng.aux.head, { rng with aux := rng.aux.tail })

def randomNonce {K : Type} : RandM K K := fun rng =>
  (.ok rng.nonces.head, { rng with nonces := rng.nonces.tail })

namespace RandM

variable {K α β : Type}

theorem bind_eq_ok {x : RandM K α} {f : α → RandM K β} {rng rng' : Rng K} {b : β} :
    (x >>= f) rng = (.ok b, rng') ↔
      ∃ a mid, x rng = (.ok a, mid) ∧ f a mid = (.ok b, rng') := by
  change ExceptT.bindCont f (x rng).1 (x rng).2 = _ ↔ _
  rcases x rng with ⟨_ | a, mid⟩
  · constructor
    · intro h
      cases h
    · rintro ⟨a, mid', h, -⟩
      cases h
  · constructor
    · intro h
      exact ⟨a, mid, rfl, h⟩
    · rintro ⟨a', mid', h, hf⟩
      cases h
      exact hf

@[simp] theorem pure_run (a : α) (rng : Rng K) : (pure a : RandM K α) rng = (.ok a, rng) := rfl

@[simp] theorem lift_run (x : Except Error α) (rng : Rng K) :
    (liftM x : RandM K α) rng = (x, rng) := rfl

theorem lift_eq_ok {x : Except Error α} {rng rng' : Rng K} {a : α} :
    (liftM x : RandM K α) rng = (.ok a, rng') ↔ x = .ok a ∧ rng' = rng := by
  rw [lift_run, Prod.mk.injEq]
  exact and_congr_right fun _ => eq_comm

theorem bind_lift_of_ok {x : Except Error α} {a : α} (h : x = .ok a) (f : α → RandM K β)
    (rng : Rng K) : ((liftM x : RandM K α) >>= f) rng = f a rng := by
  rw [h]
  rfl

theorem bind_lift_of_error {x : Except Error α} {e : Error} (h : x = .error e)
    (f : α → RandM K β) (rng : Rng K) :
    ((liftM x : RandM K α) >>= f) rng = (.error e, rng) := by
  rw [h]
  rfl

/-- However the code ends, it has taken some number of secret keys. -/
def Draws (x : RandM K α) : Prop :=
  ∀ rng, ∃ k, (x rng).2 = { rng with secretKeys := rng.secretKeys.drop k }

theorem draws_lift (x : Except Error α) : Draws (liftM x : RandM K α) :=
  fun _ => ⟨0, rfl⟩

theorem draws_pure (a : α) : Draws (pure a : RandM K α) :=
  fun _ => ⟨0, rfl⟩

theorem draws_throw (e : Error) : Draws (throw e : RandM K α) :=
  fun _ => ⟨0, rfl⟩

theorem draws_randomSecretKeyBytes : Draws (randomSecretKeyBytes : RandM K K) :=
  fun _ => ⟨1, rfl⟩

theorem Draws.bind {x : RandM K α} {f : α → RandM K β} (hx : Draws x)
    (hf : ∀ a, Draws (f a)) : Draws (x >>= f) := by
  intro rng
  obtain ⟨k, hk⟩ := hx rng
  change ∃ k, (ExceptT.bindCont f (x rng).1 (x rng).2).2 = _
  cases hresult : (x rng).1 with
  | error e => exact ⟨k, hk⟩
  | ok a =>
      obtain ⟨l, hl⟩ := hf a (x rng).2
      refine ⟨k + l, hl.trans ?_⟩
      rw [hk]
      simp only [Stream'.drop_drop]

end RandM

/-- A bind of `Except` succeeds exactly when both parts do. -/
theorem except_bind_eq_ok {ε α β : Type} {x : Except ε α} {f : α → Except ε β} {b : β} :
    (x >>= f) = .ok b ↔ ∃ a, x = .ok a ∧ f a = .ok b := by
  cases x with
  | error e =>
      constructor
      · intro h
        cases h
      · rintro ⟨a, h, -⟩
        cases h
  | ok a =>
      constructor
      · intro h
        exact ⟨a, rfl, h⟩
      · rintro ⟨a', h, hf⟩
        cases h
        exact hf

theorem mapError_eq_ok {α : Type} {x : Except String α} {g : String → Error} {a : α} :
    x.mapError g = .ok a ↔ x = .ok a := by
  cases x with
  | error e => simp [Except.mapError]
  | ok b => simp [Except.mapError]

def METADATA_PRIVACY_VERSION : Nat := 2

def MAX_SKIP : Nat := 1000

end NostrDoubleRatchet
