import NostrDoubleRatchet.Session.State
import NostrDoubleRatchet.Symbolic

/-!
The keys two sessions derive in common. The key pairs of both parties form one
sequence: chain `c` is sent under pair `c` to pair `c + 1` and announces pair
`c + 2`, and its chain key comes from the agreement of pairs `c + 2` and `c + 1`.
The primitives are ideal: decryption opens exactly what was sealed under the
same key, and distinct derivations give distinct keys.
-/

namespace NostrDoubleRatchet

/-- Bytes that are a secret key. -/
def ValidSecret {K T : Type} [Primitives K T] (secret : K) : Prop :=
  Primitives.secretKeyFromSlice secret = .ok secret

/-- What the session relies on from NIP-44, HKDF, secp256k1 and the codecs. -/
structure SymbolicLaws (K : Type) {T : Type} [Primitives K T] : Prop where
  secretKey_eq : ∀ {bytes secret : K},
    Primitives.secretKeyFromSlice bytes = .ok secret → secret = bytes
  publicKey_valid : ∀ {secret : K}, ValidSecret secret →
    Primitives.publicKeyFromSlice (Primitives.publicKey secret) =
      .ok (Primitives.publicKey secret)
  agree : ∀ {a b : K}, ValidSecret a → ValidSecret b → ∃ key,
    Primitives.conversationKey a (Primitives.publicKey b) = .ok key ∧
      Primitives.conversationKey b (Primitives.publicKey a) = .ok key
  agree_inj : ∀ {a b c d key : K},
    Primitives.conversationKey a (Primitives.publicKey b) = .ok key →
    Primitives.conversationKey c (Primitives.publicKey d) = .ok key →
    (Primitives.publicKey a = Primitives.publicKey c ∧
        Primitives.publicKey b = Primitives.publicKey d) ∨
      (Primitives.publicKey a = Primitives.publicKey d ∧
        Primitives.publicKey b = Primitives.publicKey c)
  hkdf_inj : ∀ {a b : K} {s t : Salt K} {i j : Nat},
    Primitives.hkdf a s i = Primitives.hkdf b t j → a = b ∧ s = t ∧ i = j
  decrypt_iff : ∀ {key nonce : K} {plaintext ciphertext : T},
    Primitives.encryptToBytes key nonce plaintext = .ok ciphertext → ∀ key' p,
      Primitives.decryptToBytes key' ciphertext = .ok p ↔ key' = key ∧ p = plaintext
  nip44Decrypt_iff : ∀ {secret theirs nonce : K} {plaintext ciphertext : T},
    Primitives.nip44Encrypt secret theirs nonce plaintext = .ok ciphertext → ∃ key,
      Primitives.conversationKey secret theirs = .ok key ∧ ∀ secret' theirs' p,
        Primitives.nip44Decrypt secret' theirs' ciphertext = .ok p ↔
          Primitives.conversationKey secret' theirs' = .ok key ∧ p = plaintext
  base64_roundTrip : ∀ text : T,
    Primitives.base64Decode K (Primitives.base64Encode K text) = .ok text
  header_roundTrip : ∀ header : Header K,
    Primitives.headerFromJson (Primitives.headerToJson header) = .ok header
  tweak_publicKey : ∀ {secret tweak tweaked : K}, ValidSecret secret →
    Primitives.secretAddTweak
      (if Primitives.hasOddY secret then Primitives.negateSecret secret else secret) tweak =
        some tweaked →
    Primitives.xonlyAddTweak (Primitives.publicKey secret) tweak =
      some (Primitives.publicKey tweaked)

namespace KeySchedule

variable {K T : Type} [Primitives K T]

/-- The conversation key of two secrets. -/
def agreed (a b : K) : K :=
  match Primitives.conversationKey a (Primitives.publicKey b) with
  | .ok key => key
  | .error _ => a

def pubkey (secrets : Nat → K) (i : Nat) : DevicePubkey K :=
  ⟨Primitives.publicKey (secrets i)⟩

/-- The agreement that starts chain `c`. -/
def agreement (secrets : Nat → K) (c : Nat) : K :=
  agreed (secrets (c + 2)) (secrets (c + 1))

/-- The root key before chain `c` is started. -/
def root (secrets : Nat → K) (shared : K) : Nat → K
  | 0 => shared
  | c + 1 => (kdf2 (root secrets shared c) (.key (agreement secrets c))).1

def chainStart (secrets : Nat → K) (shared : K) (c : Nat) : K :=
  (kdf2 (root secrets shared c) (.key (agreement secrets c))).2

def chainKey (secrets : Nat → K) (shared : K) (c p : Nat) : K :=
  KeyChain.chainKey chainStep (chainStart secrets shared c) p

/-- The key of message `p` of chain `c`. -/
def messageKey (secrets : Nat → K) (shared : K) (c p : Nat) : K :=
  KeyChain.messageKey chainStep (chainStart secrets shared c) p

/-- The first `n` secrets are valid and have pairwise distinct public keys. -/
structure Distinct (secrets : Nat → K) (n : Nat) : Prop where
  valid : ∀ i < n, ValidSecret (secrets i)
  inj : ∀ i j, i < n → j < n → pubkey secrets i = pubkey secrets j → i = j

theorem conversationKey_agreed (hlaws : SymbolicLaws K) {a b : K} (ha : ValidSecret a)
    (hb : ValidSecret b) :
    Primitives.conversationKey a (Primitives.publicKey b) = .ok (agreed a b) := by
  obtain ⟨key, hkey, -⟩ := hlaws.agree ha hb
  rw [agreed, hkey]

theorem agreed_comm (hlaws : SymbolicLaws K) {a b : K} (ha : ValidSecret a)
    (hb : ValidSecret b) : agreed a b = agreed b a := by
  obtain ⟨key, hab, hba⟩ := hlaws.agree ha hb
  rw [agreed, agreed, hab, hba]

theorem conversationKey_eq_iff (hlaws : SymbolicLaws K) {secrets : Nat → K} {n : Nat}
    (h : Distinct secrets n) {i j k l : Nat} (hi : i < n) (hj : j < n) (hk : k < n)
    (hl : l < n) :
    Primitives.conversationKey (secrets i) (Primitives.publicKey (secrets j)) =
        .ok (agreed (secrets k) (secrets l)) ↔
      (i = k ∧ j = l) ∨ (i = l ∧ j = k) := by
  constructor
  · intro heq
    have hkl := conversationKey_agreed hlaws (h.valid k hk) (h.valid l hl)
    rcases hlaws.agree_inj heq hkl with ⟨h1, h2⟩ | ⟨h1, h2⟩
    · exact Or.inl ⟨h.inj i k hi hk (congrArg DevicePubkey.mk h1),
        h.inj j l hj hl (congrArg DevicePubkey.mk h2)⟩
    · exact Or.inr ⟨h.inj i l hi hl (congrArg DevicePubkey.mk h1),
        h.inj j k hj hk (congrArg DevicePubkey.mk h2)⟩
  · rintro (⟨rfl, rfl⟩ | ⟨rfl, rfl⟩)
    · exact conversationKey_agreed hlaws (h.valid _ hi) (h.valid _ hj)
    · rw [agreed_comm hlaws (h.valid _ hk) (h.valid _ hl)]
      exact conversationKey_agreed hlaws (h.valid _ hi) (h.valid _ hj)

theorem agreement_inj (hlaws : SymbolicLaws K) {secrets : Nat → K} {n : Nat}
    (h : Distinct secrets n) {c d : Nat} (hc : c + 2 < n) (hd : d + 2 < n)
    (heq : agreement secrets c = agreement secrets d) : c = d := by
  have hkey := conversationKey_agreed hlaws (h.valid (c + 2) hc) (h.valid (c + 1) (by omega))
  rw [← agreement, heq, agreement, conversationKey_eq_iff hlaws h hc (by omega) hd
    (by omega)] at hkey
  omega

/-- Chain keys determine their chain and position. -/
theorem chainKey_inj (hlaws : SymbolicLaws K) {secrets : Nat → K} {shared : K} {n : Nat}
    (h : Distinct secrets n) {c d p q : Nat} (hc : c + 2 < n) (hd : d + 2 < n)
    (heq : chainKey secrets shared c p = chainKey secrets shared d q) : c = d ∧ p = q := by
  induction p generalizing q with
  | zero =>
      cases q with
      | zero =>
          obtain ⟨-, hsalt, -⟩ := hlaws.hkdf_inj heq
          exact ⟨agreement_inj hlaws h hc hd (Salt.key.inj hsalt), rfl⟩
      | succ q =>
          rw [chainKey, chainKey, KeyChain.chainKey_succ] at heq
          obtain ⟨-, hsalt, -⟩ := hlaws.hkdf_inj heq
          cases hsalt
  | succ p ih =>
      rw [chainKey, KeyChain.chainKey_succ] at heq
      cases q with
      | zero =>
          obtain ⟨-, hsalt, -⟩ := hlaws.hkdf_inj heq
          cases hsalt
      | succ q =>
          rw [chainKey, KeyChain.chainKey_succ] at heq
          obtain ⟨hkey, -, -⟩ := hlaws.hkdf_inj heq
          obtain ⟨rfl, rfl⟩ := ih hkey
          exact ⟨rfl, rfl⟩

/-- Message keys determine their chain and position. -/
theorem messageKey_inj (hlaws : SymbolicLaws K) {secrets : Nat → K} {shared : K} {n : Nat}
    (h : Distinct secrets n) {c d p q : Nat} (hc : c + 2 < n) (hd : d + 2 < n)
    (heq : messageKey secrets shared c p = messageKey secrets shared d q) :
    c = d ∧ p = q := by
  obtain ⟨hkey, -, -⟩ := hlaws.hkdf_inj heq
  exact chainKey_inj hlaws h hc hd hkey

section Congruence

variable {secrets secrets' : Nat → K} {n : Nat} (hagree : ∀ i < n, secrets i = secrets' i)

include hagree

theorem agreement_congr {c : Nat} (hc : c + 2 < n) :
    agreement secrets c = agreement secrets' c := by
  rw [agreement, agreement, hagree _ hc, hagree (c + 1) (by omega)]

theorem root_congr (shared : K) {c : Nat} (hc : c + 1 < n) :
    root secrets shared c = root secrets' shared c := by
  induction c with
  | zero => rfl
  | succ c ih => rw [root, root, ih (by omega), agreement_congr hagree hc]

theorem chainStart_congr (shared : K) {c : Nat} (hc : c + 2 < n) :
    chainStart secrets shared c = chainStart secrets' shared c := by
  rw [chainStart, chainStart, root_congr hagree shared (by omega), agreement_congr hagree hc]

theorem chainKey_congr (shared : K) {c p : Nat} (hc : c + 2 < n) :
    chainKey secrets shared c p = chainKey secrets' shared c p := by
  rw [chainKey, chainKey, chainStart_congr hagree shared hc]

theorem messageKey_congr (shared : K) {c p : Nat} (hc : c + 2 < n) :
    messageKey secrets shared c p = messageKey secrets' shared c p := by
  rw [messageKey, messageKey, chainStart_congr hagree shared hc]

theorem pubkey_congr {i : Nat} (hi : i < n) : pubkey secrets i = pubkey secrets' i := by
  rw [pubkey, pubkey, hagree i hi]

end Congruence

end KeySchedule

/-- The term algebra obeys the laws. -/
theorem Symbolic.symbolicLaws : SymbolicLaws KeyTerm where
  secretKey_eq := by
    intro bytes secret h
    exact (Except.ok.inj h).symm
  publicKey_valid := by
    intro secret _
    rfl
  agree := by
    intro a b _ _
    exact ⟨KeyTerm.agree a b, rfl, congrArg Except.ok (KeyTerm.agree_comm b a)⟩
  agree_inj := by
    intro a b c d key hab hcd
    have h : KeyTerm.agree a b = KeyTerm.agree c d :=
      (Except.ok.inj hab).trans (Except.ok.inj hcd).symm
    rcases Symbolic.agree_eq h with ⟨rfl, rfl⟩ | ⟨rfl, rfl⟩
    · exact Or.inl ⟨rfl, rfl⟩
    · exact Or.inr ⟨rfl, rfl⟩
  hkdf_inj := by
    intro a b s t i j h
    cases s with
    | byte value =>
        cases t with
        | byte value' =>
            obtain ⟨rfl, rfl, rfl⟩ := KeyTerm.expandByte.inj h
            exact ⟨rfl, rfl, rfl⟩
        | label text => cases h
        | key bytes => cases h
    | label text =>
        cases t with
        | byte value => cases h
        | label text' =>
            obtain ⟨rfl, rfl, rfl⟩ := KeyTerm.expandLabel.inj h
            exact ⟨rfl, rfl, rfl⟩
        | key bytes => cases h
    | key bytes =>
        cases t with
        | byte value => cases h
        | label text => cases h
        | key bytes' =>
            obtain ⟨rfl, rfl, rfl⟩ := KeyTerm.expandKey.inj h
            exact ⟨rfl, rfl, rfl⟩
  decrypt_iff := by
    intro key nonce plaintext ciphertext h key' p
    obtain rfl := Symbolic.sealText_eq_ok h
    exact Symbolic.openText_sealed key key' nonce plaintext p
  nip44Decrypt_iff := by
    intro secret theirs nonce plaintext ciphertext h
    change Symbolic.conversationKey secret theirs >>= _ = _ at h
    cases hkey : Symbolic.conversationKey secret theirs with
    | error e =>
        rw [hkey] at h
        cases h
    | ok key =>
        rw [hkey] at h
        obtain rfl := Symbolic.sealText_eq_ok h
        refine ⟨key, hkey, ?_⟩
        intro secret' theirs' p
        change Symbolic.conversationKey secret' theirs' >>= _ = _ ↔
          Symbolic.conversationKey secret' theirs' = _ ∧ _
        cases Symbolic.conversationKey secret' theirs' with
        | error e =>
            constructor
            · intro h
              cases h
            · rintro ⟨h, -⟩
              cases h
        | ok key' =>
            rw [Except.ok.injEq]
            exact Symbolic.openText_sealed key key' nonce plaintext p
  base64_roundTrip := fun _ => rfl
  header_roundTrip := fun _ => rfl
  tweak_publicKey := by
    intro secret tweak tweaked _ h
    cases h
    rfl

end NostrDoubleRatchet
