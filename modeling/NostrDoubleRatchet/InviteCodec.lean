import Mathlib.Data.String.Basic
import NostrDoubleRatchet.AppKeys
import NostrDoubleRatchet.Lib.HexText
import NostrDoubleRatchet.Pairwise.Wire

/-!
Invites as links and as events, as in `wire.rs`. A link carries the invite as a JSON object in
its fragment; an event carries it in its tags, the device id as the end of the `d` tag.
-/

namespace NostrDoubleRatchet

namespace InviteCodec

/-- A JSON value as the parser of links looks at it: the fields of an object that are texts or
numbers, the numbers as far as they are `u64`. -/
inductive JsonField where
  | string (text : String)
  | number (value : Option Nat)
  | other

inductive JsonValue where
  | object (fields : SortedMap String JsonField)
  | other

/-- `serde_json` on objects and `urlencoding`. -/
structure UrlCodec where
  jsonToString : SortedMap String JsonField → String
  jsonFromString : String → Except String JsonValue
  encode : String → String
  decode : String → Except String String

namespace JsonValue

/-- `data[key]`, where a value that is no object has no fields. -/
def index : JsonValue → String → Option JsonField
  | object fields, key => fields.get? key
  | other, _ => none

def asStr (value : JsonValue) (key : String) : Option String :=
  match value.index key with
  | some (.string text) => some text
  | _ => none

def asU64 (value : JsonValue) (key : String) : Option Nat :=
  match value.index key with
  | some (.number number) => number
  | _ => none

end JsonValue

/-- `split('#').nth(1)`. -/
def fragment (url : String) : Option String :=
  match url.toList.dropWhile (· ≠ '#') with
  | [] => none
  | _ :: rest => some (String.ofList (rest.takeWhile (· ≠ '#')))

def INVITE_EVENT_KIND : Nat := 30078
def INVITE_LIST_LABEL : String := "double-ratchet/invites"
def INVITE_D_PREFIX : String := "double-ratchet/invites/"

section

variable {K J : Type} [LinearOrder K] [Primitives K String] [InvitePrimitives K String]
  [EventPrimitives K] [EventCodec K String J]

def required (value : Option String) (name : String) : Except Error String :=
  match value with
  | some text => .ok text
  | none => .error (.invalidEvent s!"missing {name}")

def parseOwnerPubkey (value : String) : Except Error (OwnerPubkey K) := do
  let pubkey ← (EventCodec.parseKey value).mapError Error.nostrKey
  pure ⟨pubkey⟩

def parseHex32 (value : String) : Except Error K :=
  match EventPrimitives.hexDecode value with
  | .error e => .error (.invalidEvent e)
  | .ok none => .error (.invalidEvent "expected 32-byte hex")
  | .ok (some bytes) => .ok bytes

def publicKey (device : DevicePubkey K) : Except Error K :=
  (Primitives.publicKeyFromSlice device.bytes).mapError Error.nostrKey

/-- The owner that either form names. -/
def ownerOf (invite : Invite K String) : Option (OwnerPubkey K) :=
  (invite.ownerPublicKey.map OwnerPubkey.mk).or invite.inviterOwnerPubkey

/-- Insert a field that may be missing. -/
def insertSome (key : String) (field : Option JsonField)
    (data : SortedMap String JsonField) : SortedMap String JsonField :=
  match field with
  | some field => data.insert key field
  | none => data

def urlFields (invite : Invite K String) : SortedMap String JsonField :=
  SortedMap.empty
    |>.insert "version" (.number (some METADATA_PRIVACY_VERSION))
    |>.insert "inviter" (.string (EventCodec.keyText invite.inviterDevicePubkey.bytes))
    |>.insert "ephemeralKey" (.string (EventCodec.keyText invite.inviterEphemeralPublicKey.bytes))
    |>.insert "sharedSecret" (.string (EventCodec.keyText invite.sharedSecret))
    |>.insert "createdAt" (.number (some invite.createdAt))
    |> insertSome "deviceId" (invite.deviceId.map .string)
    |> insertSome "owner" ((ownerOf invite).map (fun owner =>
      .string (EventCodec.keyText owner.bytes)))
    |> insertSome "purpose" (invite.purpose.map .string)
    |> insertSome "maxUses" (invite.maxUses.map (fun maxUses => .number (some maxUses)))

def inviteUrl (codec : UrlCodec) (invite : Invite K String) (root : String) :
    Except Error String :=
  .ok (root ++ "#" ++ codec.encode (codec.jsonToString (urlFields invite)))

def parseInviteUrl (codec : UrlCodec) (url : String) : Except Error (Invite K String) := do
  let hash ← (match fragment url with
    | some hash => .ok hash
    | none => .error (.invalidEvent "no hash in invite URL"))
  let decoded ← (codec.decode hash).mapError Error.invalidEvent
  let data ← (codec.jsonFromString decoded).mapError Error.json
  requirePrivacyVersion (((data.asU64 "version").filter (· ≤ 255)).getD 0)
  let inviter ← required (data.asStr "inviter") "inviter"
  let inviterDevicePubkey ← parseDevicePubkey inviter
  let ephemeralKey ← required ((data.asStr "ephemeralKey").or
    (data.asStr "inviterEphemeralPublicKey")) "ephemeralKey"
  let inviterEphemeralPublicKey ← parseDevicePubkey ephemeralKey
  let secret ← required (data.asStr "sharedSecret") "sharedSecret"
  let sharedSecret ← parseHex32 secret
  let inviterOwnerPubkey ← (((data.asStr "owner").or ((data.asStr "ownerPubkey").or
    (data.asStr "ownerPublicKey"))).mapM parseOwnerPubkey :
      Except Error (Option (OwnerPubkey K)))
  let inviter ← publicKey inviterDevicePubkey
  let ownerPublicKey ← (inviterOwnerPubkey.mapM (fun owner => publicKey ⟨owner.bytes⟩) :
    Except Error (Option K))
  pure {
    metadataPrivacyVersion := METADATA_PRIVACY_VERSION
    inviterDevicePubkey := inviterDevicePubkey
    inviterEphemeralPublicKey := inviterEphemeralPublicKey
    sharedSecret := sharedSecret
    inviterEphemeralPrivateKey := none
    maxUses := data.asU64 "maxUses"
    usedBy := []
    usedResponseContents := []
    createdAt := (data.asU64 "createdAt").getD 0
    inviterOwnerPubkey := inviterOwnerPubkey
    purpose := data.asStr "purpose"
    inviter := inviter
    deviceId := data.asStr "deviceId"
    ownerPublicKey := ownerPublicKey }

/-- The event of an invite before it is signed. -/
structure UnsignedInvite (K : Type) where
  pubkey : K
  createdAt : UnixSeconds
  tags : List (List String)

def inviteUnsignedEvent (invite : Invite K String) : Except Error (UnsignedInvite K) := do
  let dSuffix := invite.deviceId.getD (EventCodec.keyText invite.inviterDevicePubkey.bytes)
  let version ← wireTag (K := K) ["v", "2"]
  let ephemeralKey ← wireTag (K := K)
    ["ephemeralKey", EventCodec.keyText invite.inviterEphemeralPublicKey.bytes]
  let sharedSecret ← wireTag (K := K) ["sharedSecret", EventCodec.keyText invite.sharedSecret]
  let d ← wireTag (K := K) ["d", INVITE_D_PREFIX ++ dSuffix]
  let label ← wireTag (K := K) ["l", INVITE_LIST_LABEL]
  let owner ← ((ownerOf invite).toList.mapM (fun owner =>
    wireTag (K := K) ["ownerPublicKey", EventCodec.keyText owner.bytes]))
  let pubkey ← publicKey invite.inviterDevicePubkey
  pure ⟨pubkey, invite.createdAt, [version, ephemeralKey, sharedSecret, d, label] ++ owner⟩

/-- `sign_with_keys`; `aux` is the randomness of the signature. -/
def UnsignedInvite.sign (unsigned : UnsignedInvite K) (secret aux : K) : SignedEvent K String :=
  signWithKeys secret unsigned.pubkey unsigned.createdAt INVITE_EVENT_KIND unsigned.tags "" aux

def parseInviteDTag (value : String) : Except Error String :=
  if INVITE_D_PREFIX.toList <+: value.toList then
    .ok (String.ofList (value.toList.drop INVITE_D_PREFIX.toList.length))
  else .error (.invalidEvent "invalid invite d tag")

def parseInviteEvent (event : SignedEvent K String) : Except Error (Invite K String) := do
  requirePrivateEvent event
  verifyEventKind event INVITE_EVENT_KIND
  event.verify
  let d ← event.requiredTagValue "d"
  let deviceId ← parseInviteDTag d
  let inviterDevicePubkey :=
    (parseDevicePubkey deviceId).toOption.getD (DevicePubkey.mk event.pubkey)
  let inviterOwnerPubkey ← ((event.optionalTagValue "ownerPublicKey").mapM parseOwnerPubkey :
    Except Error (Option (OwnerPubkey K)))
  if event.pubkey ≠ inviterDevicePubkey.bytes then
    .error (.invalidEvent "invite event author does not match inviter device")
  else do
    let ephemeralKey ← event.requiredTagValue "ephemeralKey"
    let inviterEphemeralPublicKey ← parseDevicePubkey ephemeralKey
    let secret ← event.requiredTagValue "sharedSecret"
    let sharedSecret ← parseHex32 secret
    let ownerPublicKey ← (inviterOwnerPubkey.mapM (fun owner => publicKey ⟨owner.bytes⟩) :
      Except Error (Option K))
    pure {
      metadataPrivacyVersion := METADATA_PRIVACY_VERSION
      inviterDevicePubkey := inviterDevicePubkey
      inviterEphemeralPublicKey := inviterEphemeralPublicKey
      sharedSecret := sharedSecret
      inviterEphemeralPrivateKey := none
      maxUses := none
      usedBy := []
      usedResponseContents := []
      createdAt := event.createdAt
      inviterOwnerPubkey := inviterOwnerPubkey
      purpose := none
      inviter := event.pubkey
      deviceId :=
        if deviceId ≠ EventCodec.keyText inviterDevicePubkey.bytes then some deviceId else none
      ownerPublicKey := ownerPublicKey }

end

/-! What the libraries promise, and what the constructors of an invite do. -/

section

variable {K J : Type} [Primitives K String] [InvitePrimitives K String] [EventPrimitives K]
  [EventCodec K String J]

/-- Literals and tags are themselves, the text of a valid key reads back as the key, hexadecimal
texts decode, and a signature is accepted. -/
structure CodecLaws (K : Type) {J : Type} [Primitives K String] [InvitePrimitives K String]
    [EventPrimitives K] [EventCodec K String J] : Prop where
  text : ∀ literal : String, EventCodec.text K literal = literal
  parseTag : ∀ parts : List String, parts ≠ [] → EventCodec.parseTag K parts = .ok parts
  keyBytes : ∀ bytes key : K, Primitives.publicKeyFromSlice bytes = .ok key → key = bytes
  publicKey : ∀ bytes secret : K, Primitives.secretKeyFromSlice bytes = .ok secret →
    Primitives.publicKeyFromSlice (Primitives.publicKey secret) =
      .ok (Primitives.publicKey secret)
  parseKey : ∀ bytes key : K, Primitives.publicKeyFromSlice bytes = .ok key →
    EventCodec.parseKey (EventCodec.keyText bytes) = .ok bytes
  hexDecode : ∀ bytes : K, EventPrimitives.hexDecode (EventCodec.keyText bytes) = .ok (some bytes)
  signature : ∀ secret id aux : K,
    InvitePrimitives.verifySchnorr (InvitePrimitives.signSchnorr secret id aux) id
      (Primitives.publicKey secret) = true

/-- Percent-encoding and JSON give the fields of a link back. -/
structure UrlCodec.RoundTrips (codec : UrlCodec) (fields : SortedMap String JsonField) : Prop where
  json : codec.jsonFromString (codec.jsonToString fields) = .ok (.object fields)
  decode : codec.decode (codec.encode (codec.jsonToString fields)) = .ok (codec.jsonToString fields)
  noHash : '#' ∉ (codec.encode (codec.jsonToString fields)).toList

/-- An invite as its constructors make it: of the current version, with valid keys, the owner
named in both forms. The device id, the purpose, the uses and the time are free. -/
structure Made (invite : Invite K String) : Prop where
  version : invite.metadataPrivacyVersion = METADATA_PRIVACY_VERSION
  inviter : Primitives.publicKeyFromSlice invite.inviterDevicePubkey.bytes = .ok invite.inviter
  ephemeral : ∃ key,
    Primitives.publicKeyFromSlice invite.inviterEphemeralPublicKey.bytes = .ok key
  ownerPublicKey : invite.ownerPublicKey = invite.inviterOwnerPubkey.map OwnerPubkey.bytes
  owner : ∀ owner, invite.inviterOwnerPubkey = some owner →
    Primitives.publicKeyFromSlice owner.bytes = .ok owner.bytes

/-- What a link carries of an invite. -/
def shared (invite : Invite K String) : Invite K String :=
  { invite with inviterEphemeralPrivateKey := none, usedBy := [], usedResponseContents := [] }

/-- What an event carries of an invite. -/
def published (invite : Invite K String) : Invite K String :=
  { shared invite with
    purpose := none
    maxUses := none
    deviceId := invite.deviceId.filter (fun deviceId =>
      deviceId ≠ EventCodec.keyText invite.inviterDevicePubkey.bytes) }

/-- The device id is not the text of another device's key. -/
def NamesNoOtherKey (invite : Invite K String) : Prop :=
  ∀ deviceId key, invite.deviceId = some deviceId → EventCodec.parseKey deviceId = .ok key →
    key = invite.inviterDevicePubkey.bytes

/-- A new invite is such an invite. Naming its device and its purpose, and its uses, leave it
one. -/
theorem made_of_create (laws : CodecLaws K) {now : UnixSeconds} {device : DevicePubkey K}
    {owner : Option (OwnerPubkey K)} {maxUses : Option Nat} {invite : Invite K String}
    {rng rng' : Rng K}
    (h : Invite.createNewWithContext now device owner maxUses rng = (.ok invite, rng'))
    (deviceId purpose : Option String) :
    Made { invite with deviceId := deviceId, purpose := purpose } := by
  unfold Invite.createNewWithContext at h
  obtain ⟨privateKey, r1, -, h⟩ := RandM.bind_eq_ok.mp h
  obtain ⟨ephemeral, r2, hephemeral, h⟩ := RandM.bind_eq_ok.mp h
  obtain ⟨sharedSecret, r3, -, h⟩ := RandM.bind_eq_ok.mp h
  obtain ⟨inviter, r4, hinviter, h⟩ := RandM.bind_eq_ok.mp h
  obtain ⟨ownerKey, r5, howner, h⟩ := RandM.bind_eq_ok.mp h
  cases h
  have hinviter := mapError_eq_ok.mp (RandM.lift_eq_ok.mp hinviter).1
  obtain ⟨secret, hsecret, heq⟩ := except_bind_eq_ok.mp (RandM.lift_eq_ok.mp hephemeral).1
  cases heq
  have howner := (RandM.lift_eq_ok.mp howner).1
  have howners : ownerKey = owner.map OwnerPubkey.bytes ∧ ∀ claimed, owner = some claimed →
      Primitives.publicKeyFromSlice claimed.bytes = .ok claimed.bytes := by
    cases owner with
    | none =>
        cases howner
        exact ⟨rfl, fun claimed hclaimed => by cases hclaimed⟩
    | some claimed =>
        obtain ⟨key, hkey, hsome⟩ := except_bind_eq_ok.mp howner
        cases hsome
        have hvalid := mapError_eq_ok.mp hkey
        have hsame := laws.keyBytes _ _ hvalid
        subst hsame
        refine ⟨rfl, ?_⟩
        intro other hother
        cases hother
        exact hvalid
  exact
    { version := rfl
      inviter := hinviter
      ephemeral := ⟨_, laws.publicKey _ _ (mapError_eq_ok.mp hsecret)⟩
      ownerPublicKey := howners.1
      owner := howners.2 }

section Parts

variable {invite : Invite K String}

omit [InvitePrimitives K String] [EventPrimitives K] in
theorem Made.ownerOf (h : Made invite) : ownerOf invite = invite.inviterOwnerPubkey := by
  unfold InviteCodec.ownerOf
  rw [h.ownerPublicKey]
  cases invite.inviterOwnerPubkey <;> rfl

omit [InvitePrimitives K String] [EventPrimitives K] in
theorem Made.ownerKey (h : Made invite) :
    (invite.inviterOwnerPubkey.mapM (fun owner => publicKey ⟨owner.bytes⟩) :
      Except Error (Option K)) = .ok invite.ownerPublicKey := by
  rw [h.ownerPublicKey]
  cases hclaimed : invite.inviterOwnerPubkey with
  | none => rfl
  | some owner =>
      rw [Option.mapM_some, publicKey, h.owner owner hclaimed]
      rfl

theorem Made.parseOwner (laws : CodecLaws K) (h : Made invite) :
    ((invite.inviterOwnerPubkey.map (fun owner => EventCodec.keyText owner.bytes)).mapM
      parseOwnerPubkey : Except Error (Option (OwnerPubkey K))) =
        .ok invite.inviterOwnerPubkey := by
  cases hclaimed : invite.inviterOwnerPubkey with
  | none => rfl
  | some owner =>
      rw [Option.map_some, Option.mapM_some, parseOwnerPubkey,
        laws.parseKey _ _ (h.owner owner hclaimed)]
      rfl

theorem parseDevicePubkey_keyText (laws : CodecLaws K) {device : DevicePubkey K} {key : K}
    (h : Primitives.publicKeyFromSlice device.bytes = .ok key) :
    parseDevicePubkey (EventCodec.keyText device.bytes) = .ok device := by
  rw [parseDevicePubkey, laws.parseKey _ _ h]
  rfl

theorem parseHex32_keyText (laws : CodecLaws K) (bytes : K) :
    parseHex32 (EventCodec.keyText bytes) = .ok bytes := by
  rw [parseHex32, laws.hexDecode]

end Parts

end

/-! Links. -/

theorem get?_insertSome (key key' : String) (field : Option JsonField)
    (data : SortedMap String JsonField) :
    (insertSome key field data).get? key' =
      if key = key' then field.or (data.get? key') else data.get? key' := by
  unfold insertSome
  cases field with
  | none => simp
  | some field => simp [SortedMap.get?_insert]

theorem fragment_append {root text : String} (hroot : '#' ∉ root.toList)
    (htext : '#' ∉ text.toList) : fragment (root ++ "#" ++ text) = some text := by
  unfold fragment
  have hdrop : ∀ chars : List Char, '#' ∉ chars →
      (chars ++ '#' :: text.toList).dropWhile (· ≠ '#') = '#' :: text.toList := by
    intro chars hchars
    induction chars with
    | nil => simp
    | cons c rest ih =>
        have hne : c ≠ '#' := fun heq => hchars (heq ▸ List.mem_cons_self)
        rw [List.cons_append, List.dropWhile_cons_of_pos (by simpa using hne)]
        exact ih (fun hmem => hchars (List.mem_cons_of_mem _ hmem))
  have htake : text.toList.takeWhile (· ≠ '#') = text.toList := by
    rw [List.takeWhile_eq_self_iff]
    intro c hc
    have hne : c ≠ '#' := fun heq => htext (heq ▸ hc)
    simpa using hne
  have hlist : (root ++ "#" ++ text).toList = root.toList ++ '#' :: text.toList := by
    simp
  rw [hlist, hdrop _ hroot]
  dsimp only
  rw [htake, String.ofList_toList]

section

variable {K J : Type} [Primitives K String] [InvitePrimitives K String] [EventPrimitives K]
  [EventCodec K String J]

omit [InvitePrimitives K String] [EventPrimitives K] in
/-- What the parser of links reads out of the fields of an invite. -/
theorem read_urlFields {invite : Invite K String} (hmade : Made invite) :
    (JsonValue.object (urlFields invite)).asU64 "version" = some METADATA_PRIVACY_VERSION ∧
    (JsonValue.object (urlFields invite)).asStr "inviter" =
      some (EventCodec.keyText invite.inviterDevicePubkey.bytes) ∧
    (JsonValue.object (urlFields invite)).asStr "ephemeralKey" =
      some (EventCodec.keyText invite.inviterEphemeralPublicKey.bytes) ∧
    (JsonValue.object (urlFields invite)).asStr "sharedSecret" =
      some (EventCodec.keyText invite.sharedSecret) ∧
    (JsonValue.object (urlFields invite)).asU64 "createdAt" = some invite.createdAt ∧
    (JsonValue.object (urlFields invite)).asStr "deviceId" = invite.deviceId ∧
    ((JsonValue.object (urlFields invite)).asStr "owner").or
      (((JsonValue.object (urlFields invite)).asStr "ownerPubkey").or
        ((JsonValue.object (urlFields invite)).asStr "ownerPublicKey")) =
      invite.inviterOwnerPubkey.map (fun owner => EventCodec.keyText owner.bytes) ∧
    (JsonValue.object (urlFields invite)).asStr "purpose" = invite.purpose ∧
    (JsonValue.object (urlFields invite)).asU64 "maxUses" = invite.maxUses := by
  simp only [JsonValue.asU64, JsonValue.asStr, JsonValue.index, urlFields, get?_insertSome,
    SortedMap.get?_insert, SortedMap.get?_empty, hmade.ownerOf, String.reduceEq, if_true, if_false]
  refine ⟨trivial, trivial, trivial, trivial, trivial, ?_, ?_, ?_, ?_⟩
  · cases invite.deviceId <;> rfl
  · cases invite.inviterOwnerPubkey <;> rfl
  · cases invite.purpose <;> rfl
  · cases invite.maxUses <;> rfl

/-- A link gives the shared part of its invite back. -/
theorem parseInviteUrl_inviteUrl (laws : CodecLaws K) {codec : UrlCodec}
    {invite : Invite K String} (hmade : Made invite) {root : String} (hroot : '#' ∉ root.toList)
    (hround : codec.RoundTrips (urlFields invite)) :
    (inviteUrl codec invite root >>= parseInviteUrl codec) = .ok (shared invite) := by
  obtain ⟨hversion, hinviter, hephemeral, hsecret, hcreated, hdevice, howner, hpurpose, huses⟩ :=
    read_urlFields hmade
  obtain ⟨key, hkey⟩ := hmade.ephemeral
  have hprivacy : requirePrivacyVersion
      (((some METADATA_PRIVACY_VERSION).filter (· ≤ 255)).getD 0) = .ok () := rfl
  have hinviterKey : publicKey invite.inviterDevicePubkey = .ok invite.inviter := by
    rw [publicKey, hmade.inviter]
    rfl
  change parseInviteUrl codec _ = _
  unfold parseInviteUrl
  rw [fragment_append hroot hround.noHash]
  simp only [bind, Except.bind, pure, Except.pure, hround.decode, hround.json, Except.mapError,
    hversion, hprivacy, hinviter, hephemeral, hsecret, howner, required, Option.some_or,
    parseDevicePubkey_keyText laws hmade.inviter, parseDevicePubkey_keyText laws hkey,
    parseHex32_keyText laws, hmade.parseOwner laws, hinviterKey, hmade.ownerKey, hcreated, hdevice,
    hpurpose, huses, Option.getD_some]
  rw [shared, ← hmade.version]

end

/-! Events. -/

section

variable {K J : Type} [LinearOrder K] [Primitives K String] [InvitePrimitives K String]
  [EventPrimitives K] [EventCodec K String J]

/-- The end of the `d` tag. -/
def dSuffix (invite : Invite K String) : String :=
  invite.deviceId.getD (EventCodec.keyText invite.inviterDevicePubkey.bytes)

def eventTags (invite : Invite K String) : List (List String) :=
  [["v", "2"], ["ephemeralKey", EventCodec.keyText invite.inviterEphemeralPublicKey.bytes],
    ["sharedSecret", EventCodec.keyText invite.sharedSecret],
    ["d", INVITE_D_PREFIX ++ dSuffix invite], ["l", INVITE_LIST_LABEL]] ++
  invite.inviterOwnerPubkey.toList.map (fun owner =>
    ["ownerPublicKey", EventCodec.keyText owner.bytes])

omit [LinearOrder K] in
theorem inviteUnsignedEvent_eq (laws : CodecLaws K) {invite : Invite K String}
    (hmade : Made invite) :
    inviteUnsignedEvent invite = .ok ⟨invite.inviter, invite.createdAt, eventTags invite⟩ := by
  have htag : ∀ first rest, wireTag (K := K) (first :: rest : List String) =
      .ok (first :: rest) := by
    intro first rest
    rw [wireTag, laws.parseTag _ (List.cons_ne_nil _ _)]
    rfl
  have hinviter : publicKey invite.inviterDevicePubkey = .ok invite.inviter := by
    rw [publicKey, hmade.inviter]
    rfl
  unfold inviteUnsignedEvent eventTags dSuffix
  simp only [htag, hinviter, hmade.ownerOf, bind, Except.bind, pure, Except.pure]
  cases invite.inviterOwnerPubkey with
  | none => rfl
  | some owner =>
      simp only [Option.toList_some, List.mapM_cons, List.mapM_nil, bind, Except.bind, pure,
        Except.pure, List.map_cons, List.map_nil]

theorem parseInviteDTag_prefix (suffix : String) :
    parseInviteDTag (INVITE_D_PREFIX ++ suffix) = .ok suffix := by
  unfold parseInviteDTag
  rw [String.toList_append, if_pos (List.prefix_append _ _), List.drop_left,
    String.ofList_toList]

omit [LinearOrder K] [Primitives K String] [InvitePrimitives K String] [EventPrimitives K] in
/-- What the parser of events reads out of the tags of an invite. -/
theorem read_eventTags (htext : ∀ literal : String, EventCodec.text K literal = literal)
    {invite : Invite K String} {event : SignedEvent K String}
    (htags : event.tags = eventTags invite) :
    requirePrivateEvent event = .ok () ∧
    event.requiredTagValue "d" = .ok (INVITE_D_PREFIX ++ dSuffix invite) ∧
    event.optionalTagValue "ownerPublicKey" =
      invite.inviterOwnerPubkey.map (fun owner => EventCodec.keyText owner.bytes) ∧
    event.requiredTagValue "ephemeralKey" =
      .ok (EventCodec.keyText invite.inviterEphemeralPublicKey.bytes) ∧
    event.requiredTagValue "sharedSecret" = .ok (EventCodec.keyText invite.sharedSecret) := by
  refine ⟨?_, ?_, ?_, ?_, ?_⟩
  · unfold requirePrivateEvent SignedEvent.hasMetadataPrivacyVersion
    simp only [htags, htext, eventTags]
    cases invite.inviterOwnerPubkey with
    | none => simp
    | some owner => simp
  · simp [SignedEvent.requiredTagValue, SignedEvent.optionalTagValue, htags, htext, eventTags]
  · simp only [SignedEvent.optionalTagValue, htags, htext, eventTags]
    cases invite.inviterOwnerPubkey with
    | none => simp
    | some owner => simp
  · simp [SignedEvent.requiredTagValue, SignedEvent.optionalTagValue, htags, htext, eventTags]
  · simp [SignedEvent.requiredTagValue, SignedEvent.optionalTagValue, htags, htext, eventTags]

theorem verify_sign (laws : CodecLaws K) {unsigned : UnsignedInvite K} {secret : K}
    (hsecret : Primitives.publicKey secret = unsigned.pubkey) (aux : K) :
    verifyEventKind (unsigned.sign secret aux) INVITE_EVENT_KIND = .ok () ∧
      (unsigned.sign secret aux).verify = .ok () := by
  constructor
  · unfold verifyEventKind UnsignedInvite.sign signWithKeys
    rw [if_neg (by simp)]
  · unfold SignedEvent.verify UnsignedInvite.sign signWithKeys
    rw [if_neg (by simp)]
    rw [← hsecret, laws.signature]
    rfl

omit [LinearOrder K] in
/-- The device that the parser takes the end of the `d` tag for. -/
theorem deviceOf_dSuffix (laws : CodecLaws K) {invite : Invite K String} (hmade : Made invite) :
    ((parseDevicePubkey (dSuffix invite)).toOption.getD (DevicePubkey.mk invite.inviter)).bytes =
      invite.inviter ↔ NamesNoOtherKey invite := by
  have hbytes : invite.inviter = invite.inviterDevicePubkey.bytes :=
    laws.keyBytes _ _ hmade.inviter
  unfold dSuffix NamesNoOtherKey
  cases hdevice : invite.deviceId with
  | none =>
      rw [Option.getD_none, parseDevicePubkey_keyText laws hmade.inviter]
      constructor
      · intro _ deviceId key h
        cases h
      · intro _
        exact hbytes.symm
  | some deviceId =>
      rw [Option.getD_some, hbytes]
      unfold parseDevicePubkey
      cases hparse : EventCodec.parseKey (K := K) deviceId with
      | error e =>
          constructor
          · intro _ other key hother hkey
            cases hother
            rw [hparse] at hkey
            cases hkey
          · intro _
            rfl
      | ok key =>
          constructor
          · intro hsame other key' hother hkey
            cases hother
            rw [hparse] at hkey
            cases hkey
            exact hsame
          · intro hnames
            exact hnames deviceId key rfl hparse

/-- The signed event of an invite gives the published part back, unless its device id is the
text of another device's key, in which case it is refused. -/
theorem parseInviteEvent_sign (laws : CodecLaws K) {invite : Invite K String}
    (hmade : Made invite) {secret : K} (hsecret : Primitives.publicKey secret = invite.inviter)
    (aux : K) :
    ∃ unsigned, inviteUnsignedEvent invite = .ok unsigned ∧
      (NamesNoOtherKey invite →
        parseInviteEvent (unsigned.sign secret aux) = .ok (published invite)) ∧
      (¬ NamesNoOtherKey invite → parseInviteEvent (unsigned.sign secret aux) =
        .error (.invalidEvent "invite event author does not match inviter device")) := by
  refine ⟨_, inviteUnsignedEvent_eq laws hmade, ?_⟩
  have hbytes : invite.inviter = invite.inviterDevicePubkey.bytes :=
    laws.keyBytes _ _ hmade.inviter
  obtain ⟨key, hkey⟩ := hmade.ephemeral
  have hpubkey : Primitives.publicKey secret =
      UnsignedInvite.pubkey ⟨invite.inviter, invite.createdAt, eventTags invite⟩ := hsecret
  obtain ⟨hkind, hverify⟩ := verify_sign laws hpubkey aux
  obtain ⟨hprivate, hd, howner, hephemeral, hshared⟩ := read_eventTags laws.text
    (show (UnsignedInvite.sign ⟨invite.inviter, invite.createdAt, eventTags invite⟩
      secret aux).tags = eventTags invite from rfl)
  have hauthor : (UnsignedInvite.sign ⟨invite.inviter, invite.createdAt, eventTags invite⟩
      secret aux).pubkey = invite.inviter := rfl
  have hcreated : (UnsignedInvite.sign ⟨invite.inviter, invite.createdAt, eventTags invite⟩
      secret aux).createdAt = invite.createdAt := rfl
  have hdevice := deviceOf_dSuffix laws hmade
  unfold parseInviteEvent
  simp only [bind, Except.bind, pure, Except.pure, hprivate, hkind, hverify, hd, howner, hephemeral,
    hshared, hauthor, hcreated, parseInviteDTag_prefix, hmade.parseOwner laws, hmade.ownerKey,
    parseDevicePubkey_keyText laws hkey, parseHex32_keyText laws]
  constructor
  · intro hnames
    have hsame := hdevice.mpr hnames
    have hinviter : (parseDevicePubkey (dSuffix invite)).toOption.getD
        (DevicePubkey.mk invite.inviter) = invite.inviterDevicePubkey := by
      cases hparsed : (parseDevicePubkey (dSuffix invite)).toOption.getD
        (DevicePubkey.mk invite.inviter)
      rw [hparsed, hbytes] at hsame
      exact congrArg DevicePubkey.mk hsame
    have hdeviceId : (if dSuffix invite ≠ EventCodec.keyText invite.inviterDevicePubkey.bytes then
        some (dSuffix invite) else none) = (published invite).deviceId := by
      unfold dSuffix published
      cases invite.deviceId with
      | none => exact if_neg (not_not.mpr rfl)
      | some deviceId =>
          simp only [Option.getD_some, Option.filter_some, decide_eq_true_eq]
    rw [if_neg (not_not.mpr hsame.symm), hinviter, hdeviceId, ← hmade.version]
    rfl
  · intro hnames
    rw [if_pos (fun heq => hnames (hdevice.mp heq.symm))]

/-- Both forms of an invite give it back, up to what they do not carry. -/
theorem invite_round_trips (laws : CodecLaws K) {codec : UrlCodec} {invite : Invite K String}
    (hmade : Made invite) {root : String} (hroot : '#' ∉ root.toList)
    (hround : codec.RoundTrips (urlFields invite)) {secret : K}
    (hsecret : Primitives.publicKey secret = invite.inviter) (aux : K) :
    (inviteUrl codec invite root >>= parseInviteUrl codec) = .ok (shared invite) ∧
    ∃ unsigned, inviteUnsignedEvent invite = .ok unsigned ∧
      (NamesNoOtherKey invite →
        parseInviteEvent (unsigned.sign secret aux) = .ok (published invite)) ∧
      (¬ NamesNoOtherKey invite → parseInviteEvent (unsigned.sign secret aux) =
        .error (.invalidEvent "invite event author does not match inviter device")) :=
  ⟨parseInviteUrl_inviteUrl laws hmade hroot hround, parseInviteEvent_sign laws hmade hsecret aux⟩

end

/-! Keys as bytes, texts as they are, links with plain fields. -/

namespace ByteKeys

abbrev Key := List (Fin 256)

def hex (key : Key) : String := HexText.encode (key.map UInt8.ofFin)

def unhex (text : String) : Option Key := (HexText.decode text).map (List.map UInt8.toFin)

theorem unhex_hex (key : Key) : unhex (hex key) = some key := by
  unfold unhex hex
  rw [HexText.decode_encode, Option.map_some, List.map_map]
  congr 1
  exact List.map_id'' (fun byte => rfl) key

def ofBytes (key : Key) : Except String Key :=
  if key.length = 32 then .ok key else .error "malformed public key"

/-- Every secret is its own public key, and nothing is sealed. -/
@[reducible] def primitives : Primitives Key String where
  secretKeyFromSlice := ofBytes
  publicKeyFromSlice := ofBytes
  publicKey := id
  conversationKey _ theirs := .ok theirs
  hkdf key _ _ := key
  encryptToBytes _ _ text := .ok text
  decryptToBytes _ text := .ok text
  nip44Encrypt _ _ _ text := .ok text
  nip44Decrypt _ _ text := .ok text
  base64Encode := id
  base64Decode := .ok
  headerToJson _ := ""
  headerFromJson _ := .error "invalid json"
  sha256 _ _ := []
  scalarFromBytes := some
  isZeroScalar _ := false
  xonlyIsValid _ := true
  xonlyAddTweak key _ := some key
  hasOddY _ := false
  negateSecret := id
  secretAddTweak key _ := some key
  toHex := hex

@[reducible] def invitePrimitives : InvitePrimitives Key String where
  signSchnorr secret id _ := hex secret ++ hex id
  verifySchnorr signature id pubkey := signature = hex pubkey ++ hex id
  payloadToJson _ := .error "not written"
  payloadFromJson _ := .error "invalid json"
  rumorId pubkey _ _ _ _ := pubkey
  rumorToJson _ := .error "not written"
  rumorFromJson _ := .error "invalid json"
  stringFromUtf8 := .ok
  textLe a b := a ≤ b

@[reducible] def eventPrimitives : EventPrimitives Key where
  verifyEvent _ := true
  jsonLength event := .ok event.content.length
  hexDecode text :=
    match unhex text with
    | some key => .ok (some key)
    | none => .error "invalid hex"

@[reducible] def eventCodec : EventCodec Key String String where
  zeroKey := List.replicate 32 ⟨0, by decide⟩
  text := id
  keyText := hex
  parseKey text :=
    match unhex text with
    | some key => ofBytes key
    | none => .error "invalid public key"
  parseTag parts := if parts = [] then .error "empty tag" else .ok parts
  eventId pubkey _ _ _ _ := pubkey
  eventToJson _ := .error "not written"
  eventFromJson _ := .error "invalid json"
  inviteToJson _ := .error "not written"
  filterToJson _ _ := .error "not written"
  textLength := String.utf8ByteSize
  jsonLength := String.utf8ByteSize
  handshakeDigest device _ _ _ _ := device

attribute [local instance] primitives invitePrimitives eventPrimitives eventCodec

theorem ofBytes_eq_ok {bytes key : Key} (h : ofBytes bytes = .ok key) :
    bytes.length = 32 ∧ key = bytes := by
  unfold ofBytes at h
  split at h
  · rename_i hlength
    cases h
    exact ⟨hlength, rfl⟩
  · cases h

theorem laws : CodecLaws Key where
  text _ := rfl
  parseTag parts hparts := if_neg hparts
  keyBytes bytes key h := (ofBytes_eq_ok h).2
  publicKey bytes secret h := by
    obtain ⟨hlength, rfl⟩ := ofBytes_eq_ok h
    exact if_pos hlength
  parseKey bytes key h := by
    change (match unhex (hex bytes) with
      | some key => ofBytes key
      | none => .error "invalid public key") = _
    rw [unhex_hex]
    exact if_pos (ofBytes_eq_ok h).1
  hexDecode bytes := by
    change (match unhex (hex bytes) with
      | some key => .ok (some key)
      | none => .error "invalid hex" : Except String (Option Key)) = _
    rw [unhex_hex]
  signature secret id aux := decide_eq_true rfl

def key (byte : Fin 256) : Key := List.replicate 32 byte

/-- An invite of the device whose key is made of ones. -/
def invite (deviceId : String) : Invite Key String where
  metadataPrivacyVersion := METADATA_PRIVACY_VERSION
  inviterDevicePubkey := ⟨key 1⟩
  inviterEphemeralPublicKey := ⟨key 2⟩
  sharedSecret := key 3
  inviterEphemeralPrivateKey := some (key 2)
  maxUses := some 5
  usedBy := [⟨key 6⟩]
  usedResponseContents := ["answered"]
  createdAt := 7
  inviterOwnerPubkey := some ⟨key 4⟩
  purpose := some "link"
  inviter := key 1
  deviceId := some deviceId
  ownerPublicKey := some (key 4)

theorem made (deviceId : String) : Made (invite deviceId) where
  version := rfl
  inviter := rfl
  ephemeral := ⟨key 2, rfl⟩
  ownerPublicKey := rfl
  owner owner h := by
    cases h
    rfl

def fieldText : JsonField → String
  | .string text => "\"" ++ text ++ "\""
  | .number (some value) => toString value
  | .number none => "-1"
  | .other => "null"

/-- The object of fields that need no escapes. -/
def objectText (fields : SortedMap String JsonField) : String :=
  "\x7b" ++ String.intercalate "," (fields.entries.map (fun field =>
    "\"" ++ field.1 ++ "\":" ++ fieldText field.2)) ++ "\x7d"

/-- A character as it stands in a link; those of more than one byte are left as they are. -/
def percentChar (c : Char) : List Char :=
  if c.isAlphanum || ['-', '_', '.', '~'].contains c || 256 ≤ c.toNat then [c]
  else ['%', HexText.digit (c.toNat / 16), HexText.digit (c.toNat % 16)]

def percentEncode (text : String) : String := String.ofList (text.toList.flatMap percentChar)

def percentDecode : List Char → List Char
  | '%' :: high :: low :: rest =>
      match HexText.value high, HexText.value low with
      | some high, some low => Char.ofNat (16 * high + low) :: percentDecode rest
      | _, _ => '%' :: percentDecode (high :: low :: rest)
  | c :: rest => c :: percentDecode rest
  | [] => []

theorem percentChar_cases (c : Char) :
    (percentChar c = [c] ∧ c ≠ '%' ∧ c ≠ '#') ∨
      (c.toNat < 256 ∧ percentChar c =
        ['%', HexText.digit (c.toNat / 16), HexText.digit (c.toNat % 16)]) := by
  unfold percentChar
  by_cases hplain : c.isAlphanum || ['-', '_', '.', '~'].contains c || 256 ≤ c.toNat
  · rw [if_pos hplain]
    refine .inl ⟨rfl, ?_, ?_⟩ <;>
    · rintro rfl
      revert hplain
      decide
  · rw [if_neg hplain]
    have hsmall : c.toNat < 256 := by
      by_contra hlarge
      exact hplain (by simp [Nat.not_lt.mp hlarge])
    exact .inr ⟨hsmall, rfl⟩

theorem percentDecode_percentChar (c : Char) (rest : List Char) :
    percentDecode (percentChar c ++ rest) = c :: percentDecode rest := by
  obtain ⟨hplain, hne, -⟩ | ⟨hsmall, hcoded⟩ := percentChar_cases c
  · rw [hplain, List.cons_append, List.nil_append, percentDecode]
    rintro _ _ _ rfl
    exact absurd rfl hne
  · have hhigh := HexText.value_digit (show c.toNat / 16 < 16 by omega)
    have hlow := HexText.value_digit (Nat.mod_lt c.toNat (show 16 > 0 by decide))
    rw [hcoded]
    change percentDecode ('%' :: _ :: _ :: rest) = _
    rw [percentDecode, hhigh, hlow]
    change Char.ofNat (16 * (c.toNat / 16) + c.toNat % 16) :: percentDecode rest = _
    rw [Nat.div_add_mod, Char.ofNat_toNat]

theorem percentDecode_flatMap (chars : List Char) :
    percentDecode (chars.flatMap percentChar) = chars := by
  induction chars with
  | nil => rfl
  | cons c rest ih => rw [List.flatMap_cons, percentDecode_percentChar, ih]

theorem hash_not_mem_percentChar (c : Char) : '#' ∉ percentChar c := by
  obtain ⟨hplain, -, hne⟩ | ⟨hsmall, hcoded⟩ := percentChar_cases c
  · rw [hplain, List.mem_singleton]
    exact hne.symm
  · have hdigit : ∀ n : Fin 16, '#' ≠ HexText.digit n.val := by
      decide
    have hhigh := hdigit ⟨c.toNat / 16, by omega⟩
    have hlow := hdigit ⟨c.toNat % 16, Nat.mod_lt _ (by decide)⟩
    rw [hcoded]
    simp only [List.mem_cons, List.not_mem_nil, or_false, not_or]
    exact ⟨by decide, hhigh, hlow⟩

/-- Links to the invite. -/
def codec : UrlCodec where
  jsonToString := objectText
  jsonFromString text :=
    if text = objectText (urlFields (invite "phone")) then
      .ok (.object (urlFields (invite "phone")))
    else .error "invalid json"
  encode := percentEncode
  decode text := .ok (String.ofList (percentDecode text.toList))

theorem roundTrips : codec.RoundTrips (urlFields (invite "phone")) where
  json := by
    unfold codec
    dsimp only
    rw [if_pos rfl]
  decode := by
    unfold codec percentEncode
    dsimp only
    rw [String.toList_ofList, percentDecode_flatMap, String.ofList_toList]
  noHash := by
    unfold codec percentEncode
    dsimp only
    rw [String.toList_ofList, List.mem_flatMap]
    rintro ⟨c, -, hmem⟩
    exact hash_not_mem_percentChar c hmem

/-- The device id is the text of another key: the event of the invite is refused. -/
theorem refuses_other_key : Made (invite (hex (key 9))) ∧
    ∃ unsigned, inviteUnsignedEvent (invite (hex (key 9))) = .ok unsigned ∧
      parseInviteEvent (unsigned.sign (key 1) (key 8)) =
        .error (.invalidEvent "invite event author does not match inviter device") := by
  have hsecret : Primitives.publicKey (key 1) = (invite (hex (key 9))).inviter := rfl
  obtain ⟨unsigned, hunsigned, -, hrefused⟩ :=
    parseInviteEvent_sign laws (made (hex (key 9))) hsecret (key 8)
  refine ⟨made _, unsigned, hunsigned, hrefused ?_⟩
  intro hnames
  have hparse : EventCodec.parseKey (hex (key 9)) = .ok (key 9) := by
    decide +kernel
  have hsame := hnames (hex (key 9)) (key 9) rfl hparse
  revert hsame
  decide

/-- The device id is a name. -/
theorem phone_round_trips :
    (inviteUrl codec (invite "phone") "https://chat.iris.to" >>= parseInviteUrl codec) =
        .ok (shared (invite "phone")) ∧
      ∃ unsigned, inviteUnsignedEvent (invite "phone") = .ok unsigned ∧
        parseInviteEvent (unsigned.sign (key 1) (key 8)) = .ok (published (invite "phone")) := by
  have hroot : '#' ∉ "https://chat.iris.to".toList := by
    decide
  have hsecret : Primitives.publicKey (key 1) = (invite "phone").inviter := rfl
  obtain ⟨hurl, unsigned, hunsigned, hpublished, -⟩ :=
    invite_round_trips laws (made "phone") hroot roundTrips hsecret (key 8)
  refine ⟨hurl, unsigned, hunsigned, hpublished ?_⟩
  intro deviceId other hdevice hparse
  cases hdevice
  have hname : (EventCodec.parseKey "phone" : Except String Key) = .error "invalid public key" := by
    decide +kernel
  rw [hname] at hparse
  cases hparse

end ByteKeys

end InviteCodec

end NostrDoubleRatchet
