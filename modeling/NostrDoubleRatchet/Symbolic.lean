import Mathlib.Data.List.Lex
import NostrDoubleRatchet.Lib.PrefixCode
import NostrDoubleRatchet.AppKeys
import NostrDoubleRatchet.Invite

/-!
A free term algebra for the primitives: keys and texts are the expressions that
produce them, so distinct derivations give distinct keys and a text opens only
under the key that sealed it. It instantiates the primitives at concrete runs.
-/

namespace NostrDoubleRatchet

inductive KeyTerm where
  | secret (index : Nat)
  | point (secret : KeyTerm)
  | agreed (a b : KeyTerm)
  | expandByte (ikm : KeyTerm) (salt index : Nat)
  | expandLabel (ikm : KeyTerm) (salt : String) (index : Nat)
  | expandKey (ikm salt : KeyTerm) (index : Nat)
  | digest (domain : String)
  | absorb (hash key : KeyTerm)
  | tweaked (secret tweak : KeyTerm)
  deriving DecidableEq, Repr

namespace KeyTerm

def encodeString (text : String) : List Nat :=
  [text.toList.length] ++ text.toList.flatMap (fun c => [c.toNat])

def encode : KeyTerm → List Nat
  | secret index => [0, index]
  | point k => 1 :: encode k
  | agreed a b => 2 :: (encode a ++ encode b)
  | expandByte ikm salt index => 3 :: salt :: index :: encode ikm
  | expandLabel ikm salt index => 4 :: index :: (encodeString salt ++ encode ikm)
  | expandKey ikm salt index => 5 :: index :: (encode salt ++ encode ikm)
  | digest domain => 6 :: encodeString domain
  | absorb hash key => 7 :: (encode hash ++ encode key)
  | tweaked k tweak => 8 :: (encode k ++ encode tweak)

private theorem prefixFree_singleton :
    PrefixFree (fun _ : Nat => True) (fun n => [n]) :=
  PrefixFree.of_length (fun _ => rfl) (fun _ _ _ _ h => (List.cons.inj h).1)

private theorem prefixFree_char :
    PrefixFree (fun _ : Char => True) (fun c => [c.toNat]) :=
  PrefixFree.of_length (fun _ => rfl)
    (fun _ _ _ _ h => Char.toNat_inj.mp (List.cons.inj h).1)

private theorem encodeString_cancel {s t : String} {u v : List Nat}
    (h : encodeString s ++ u = encodeString t ++ v) : s = t ∧ u = v := by
  obtain ⟨hlist, hrest⟩ := PrefixFree.list prefixFree_char prefixFree_singleton
    s.toList t.toList u v ⟨trivial, fun _ _ => trivial⟩ ⟨trivial, fun _ _ => trivial⟩ h
  exact ⟨String.toList_injective hlist, hrest⟩

theorem prefixFree_encode : PrefixFree (fun _ => True) encode := by
  intro a b u v _ _ h
  induction a generalizing b u v with
  | secret index =>
      cases b with
      | secret index' => simpa [encode] using h
      | _ => simp [encode] at h
  | point k ih =>
      cases b with
      | point k' =>
          obtain ⟨rfl, rfl⟩ := ih k' u v (List.cons.inj h).2
          exact ⟨rfl, rfl⟩
      | _ => simp [encode] at h
  | agreed a₁ a₂ iha ihb =>
      cases b with
      | agreed c d =>
          simp only [encode, List.cons_append, List.append_assoc, List.cons.injEq,
            true_and] at h
          obtain ⟨rfl, htail⟩ := iha c _ _ h
          obtain ⟨rfl, rfl⟩ := ihb d _ _ htail
          exact ⟨rfl, rfl⟩
      | _ => simp [encode] at h
  | expandByte ikm salt index ih =>
      cases b with
      | expandByte ikm' salt' index' =>
          simp only [encode, List.cons_append, List.cons.injEq, true_and] at h
          obtain ⟨rfl, rfl, h⟩ := h
          obtain ⟨rfl, rfl⟩ := ih ikm' _ _ h
          exact ⟨rfl, rfl⟩
      | _ => simp [encode] at h
  | expandLabel ikm salt index ih =>
      cases b with
      | expandLabel ikm' salt' index' =>
          simp only [encode, List.cons_append, List.cons.injEq, true_and,
            List.append_assoc] at h
          obtain ⟨rfl, h⟩ := h
          obtain ⟨rfl, htail⟩ := encodeString_cancel h
          obtain ⟨rfl, rfl⟩ := ih ikm' _ _ htail
          exact ⟨rfl, rfl⟩
      | _ => simp [encode] at h
  | expandKey ikm salt index ihikm ihsalt =>
      cases b with
      | expandKey ikm' salt' index' =>
          simp only [encode, List.cons_append, List.cons.injEq, true_and,
            List.append_assoc] at h
          obtain ⟨rfl, h⟩ := h
          obtain ⟨rfl, htail⟩ := ihsalt salt' _ _ h
          obtain ⟨rfl, rfl⟩ := ihikm ikm' _ _ htail
          exact ⟨rfl, rfl⟩
      | _ => simp [encode] at h
  | digest domain =>
      cases b with
      | digest domain' =>
          obtain ⟨rfl, rfl⟩ := encodeString_cancel (List.cons.inj h).2
          exact ⟨rfl, rfl⟩
      | _ => simp [encode] at h
  | absorb hash key ihhash ihkey =>
      cases b with
      | absorb hash' key' =>
          simp only [encode, List.cons_append, List.append_assoc, List.cons.injEq,
            true_and] at h
          obtain ⟨rfl, htail⟩ := ihhash hash' _ _ h
          obtain ⟨rfl, rfl⟩ := ihkey key' _ _ htail
          exact ⟨rfl, rfl⟩
      | _ => simp [encode] at h
  | tweaked k tweak ihk ihtweak =>
      cases b with
      | tweaked k' tweak' =>
          simp only [encode, List.cons_append, List.append_assoc, List.cons.injEq,
            true_and] at h
          obtain ⟨rfl, htail⟩ := ihk k' _ _ h
          obtain ⟨rfl, rfl⟩ := ihtweak tweak' _ _ htail
          exact ⟨rfl, rfl⟩
      | _ => simp [encode] at h

theorem encode_injective : Function.Injective encode :=
  fun _ _ h => prefixFree_encode.injective trivial trivial h

instance : LinearOrder KeyTerm := LinearOrder.lift' encode encode_injective

/-- The key two parties agree on, the same from both sides. -/
def agree (a b : KeyTerm) : KeyTerm :=
  if encode a ≤ encode b then agreed a b else agreed b a

theorem agree_comm (a b : KeyTerm) : agree a b = agree b a := by
  unfold agree
  by_cases hab : encode a ≤ encode b
  · by_cases hba : encode b ≤ encode a
    · rw [encode_injective (le_antisymm hab hba)]
    · rw [if_pos hab, if_neg hba]
  · rw [if_neg hab, if_pos (le_of_not_ge hab)]

end KeyTerm

inductive TextTerm where
  | bytes (content : String)
  | sealed (key nonce : KeyTerm) (body : TextTerm)
  | base64 (body : TextTerm)
  | header (header : Header KeyTerm)
  | signature (secret digest aux : KeyTerm)
  | payload (sessionKey : KeyTerm) (proof : TextTerm) (deviceId : Option String)
      (owner : Option KeyTerm)
  | rumor (id pubkey : KeyTerm) (createdAt kind : Nat) (tags : List (List String))
      (content : TextTerm)
  deriving DecidableEq, Repr

namespace Symbolic

def sealText (key nonce : KeyTerm) (body : TextTerm) : Except String TextTerm :=
  if body = .bytes "" then .error "message empty" else .ok (.sealed key nonce body)

def openText (key : KeyTerm) : TextTerm → Except String TextTerm
  | .sealed key' _ body => if key' = key then .ok body else .error "invalid hmac"
  | _ => .error "invalid payload"

def conversationKey (ours : KeyTerm) : KeyTerm → Except String KeyTerm
  | .point theirs => .ok (KeyTerm.agree ours theirs)
  | _ => .error "invalid public key"

instance primitives : Primitives KeyTerm TextTerm where
  secretKeyFromSlice k := .ok k
  publicKeyFromSlice
    | .point k => .ok (.point k)
    | _ => .error "invalid public key"
  publicKey := KeyTerm.point
  conversationKey := conversationKey
  hkdf ikm salt index := match salt with
    | .byte value => .expandByte ikm value index
    | .label text => .expandLabel ikm text index
    | .key key => .expandKey ikm key index
  encryptToBytes := sealText
  decryptToBytes := openText
  nip44Encrypt ours theirs nonce body := do sealText (← conversationKey ours theirs) nonce body
  nip44Decrypt ours theirs text := do openText (← conversationKey ours theirs) text
  base64Encode := TextTerm.base64
  base64Decode
    | .base64 body => .ok body
    | _ => .error "invalid base64"
  headerToJson := TextTerm.header
  headerFromJson
    | .header header => .ok header
    | _ => .error "invalid json"
  sha256 domain keys := keys.foldl KeyTerm.absorb (.digest domain)
  scalarFromBytes k := some k
  isZeroScalar _ := false
  xonlyIsValid _ := true
  xonlyAddTweak
    | .point k, tweak => some (.point (.tweaked k tweak))
    | _, _ => none
  hasOddY _ := false
  negateSecret k := k
  secretAddTweak k tweak := some (.tweaked k tweak)
  toHex k := String.intercalate "," (k.encode.map toString)

instance invitePrimitives : InvitePrimitives KeyTerm TextTerm where
  signSchnorr := TextTerm.signature
  verifySchnorr
    | .signature secret digest _, digest', key => digest = digest' && key = .point secret
    | _, _, _ => false
  payloadToJson payload := .ok (.payload payload.sessionKey.bytes payload.sessionProof
    payload.deviceId (payload.ownerPubkey.map OwnerPubkey.bytes))
  payloadFromJson
    | .payload sessionKey proof deviceId owner =>
        .ok ⟨⟨sessionKey⟩, proof, deviceId, owner.map OwnerPubkey.mk⟩
    | _ => .error "invalid json"
  rumorId pubkey createdAt kind _ _ :=
    .expandByte (.absorb (.digest "rumor") pubkey) createdAt kind
  rumorToJson rumor := .ok (.rumor rumor.id rumor.pubkey rumor.createdAt rumor.kind rumor.tags
    rumor.content)
  rumorFromJson
    | .rumor id pubkey createdAt kind tags content =>
        .ok ⟨id, pubkey, createdAt, kind, tags, content⟩
    | _ => .error "invalid json"
  stringFromUtf8 := .ok
  textLe _ _ := true

def tagTerm : List String → KeyTerm
  | [] => .digest ""
  | text :: rest => .absorb (.digest text) (tagTerm rest)

def tagsTerm : List (List String) → KeyTerm
  | [] => .digest ""
  | tag :: rest => .absorb (tagTerm tag) (tagsTerm rest)

/-- The id of an event stands for everything it signs. -/
def eventId (event : Event KeyTerm) : KeyTerm :=
  .absorb (.absorb (.expandByte event.pubkey event.createdAt event.kind) (tagsTerm event.tags))
    (.digest event.content)

/-- Keys are written as `toHex` writes them. -/
instance eventPrimitives : EventPrimitives KeyTerm where
  verifyEvent event := event.id = eventId event && event.sig = "signed"
  jsonLength event := .ok event.content.length
  hexDecode text :=
    match text.toList with
    | '1' :: ',' :: '0' :: ',' :: digits =>
        match parseU64 (String.ofList digits) with
        | some index => .ok (some (.point (.secret index)))
        | none => .error "invalid hex"
    | _ => .error "invalid hex"

theorem tagTerm_injective {s t : List String} (h : tagTerm s = tagTerm t) : s = t := by
  induction s generalizing t with
  | nil =>
      cases t with
      | nil => rfl
      | cons text rest => cases h
  | cons text rest ih =>
      cases t with
      | nil => cases h
      | cons text' rest' =>
          obtain ⟨htext, hrest⟩ := KeyTerm.absorb.inj h
          rw [KeyTerm.digest.inj htext, ih hrest]

theorem tagsTerm_injective {s t : List (List String)} (h : tagsTerm s = tagsTerm t) : s = t := by
  induction s generalizing t with
  | nil =>
      cases t with
      | nil => rfl
      | cons tag rest => cases h
  | cons tag rest ih =>
      cases t with
      | nil => cases h
      | cons tag' rest' =>
          obtain ⟨htag, hrest⟩ := KeyTerm.absorb.inj h
          rw [tagTerm_injective htag, ih hrest]

/-- A verified event is determined by its id. -/
theorem verifyEvent_id_injective {e f : Event KeyTerm}
    (he : EventPrimitives.verifyEvent e = true) (hf : EventPrimitives.verifyEvent f = true)
    (hid : e.id = f.id) : e = f := by
  have hread : ∀ event : Event KeyTerm, EventPrimitives.verifyEvent event = true →
      event.id = eventId event ∧ event.sig = "signed" := by
    intro event hevent
    rw [EventPrimitives.verifyEvent, eventPrimitives, Bool.and_eq_true, decide_eq_true_eq,
      decide_eq_true_eq] at hevent
    exact hevent
  obtain ⟨heId, heSig⟩ := hread e he
  obtain ⟨hfId, hfSig⟩ := hread f hf
  obtain ⟨hleft, hcontent⟩ := KeyTerm.absorb.inj (heId.symm.trans (hid.trans hfId))
  obtain ⟨hfields, htags⟩ := KeyTerm.absorb.inj hleft
  obtain ⟨hpubkey, hcreated, hkind⟩ := KeyTerm.expandByte.inj hfields
  cases e
  cases f
  simp only [Event.mk.injEq]
  exact ⟨hid, hpubkey, hcreated, hkind, tagsTerm_injective htags, KeyTerm.digest.inj hcontent,
    heSig.trans hfSig.symm⟩

theorem agree_eq {a b c d : KeyTerm} (h : KeyTerm.agree a b = KeyTerm.agree c d) :
    (a = c ∧ b = d) ∨ (a = d ∧ b = c) := by
  unfold KeyTerm.agree at h
  split at h
  · split at h
    · exact Or.inl (KeyTerm.agreed.inj h)
    · exact Or.inr (KeyTerm.agreed.inj h)
  · split at h
    · exact Or.inr (KeyTerm.agreed.inj h).symm
    · exact Or.inl (KeyTerm.agreed.inj h).symm

theorem sealText_eq_ok {key nonce : KeyTerm} {plaintext ciphertext : TextTerm}
    (h : sealText key nonce plaintext = .ok ciphertext) :
    ciphertext = .sealed key nonce plaintext := by
  rw [sealText] at h
  split at h
  · cases h
  · cases h
    rfl

theorem openText_sealed (key key' nonce : KeyTerm) (plaintext p : TextTerm) :
    openText key' (.sealed key nonce plaintext) = .ok p ↔
      key' = key ∧ p = plaintext := by
  rw [openText]
  by_cases hkey : key = key'
  · rw [if_pos hkey]
    simp only [Except.ok.injEq, hkey, true_and]
    exact eq_comm
  · rw [if_neg hkey]
    simp [Ne.symm hkey]

theorem nip44RoundTrip : Nip44RoundTrip KeyTerm := by
  intro key nonce plaintext ciphertext h
  obtain rfl := sealText_eq_ok h
  exact (openText_sealed key key nonce plaintext plaintext).mpr ⟨rfl, rfl⟩

end Symbolic

end NostrDoubleRatchet
