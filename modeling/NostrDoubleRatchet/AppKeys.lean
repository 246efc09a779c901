import NostrDoubleRatchet.Primitives

/-!
Owner-signed AppKeys rosters as in `app_keys.rs`: reading a roster out of an event,
the limits on events used for authorization, and the index of the newest event of
each owner. The hash map of devices is a sorted map; nothing reads its order. The
encrypted device labels are left out, since authorization never reads them.
-/

namespace NostrDoubleRatchet

structure Event (K : Type) where
  id : K
  pubkey : K
  createdAt : UnixSeconds
  kind : Nat
  tags : List (List String)
  content : String
  sig : String
  deriving DecidableEq, Repr

/-- What the `nostr`, `serde_json` and `hex` crates do with events. `hexDecode`
gives the bytes when there are 32 of them. -/
class EventPrimitives (K : Type) where
  verifyEvent : Event K → Bool
  jsonLength : Event K → Except String Nat
  hexDecode : String → Except String (Option K)

def APP_KEYS_SNAPSHOT_KIND : Nat := 37368
def APP_KEYS_SCHEMA : Nat := 1
def APP_KEYS_FACT_TYPE : String := "app_keys_roster_snapshot"
def APP_KEYS_OWNER_PUBKEY_FACT : String := "owner_pubkey"
def APP_KEYS_AUTHORIZATION_MAX_EVENT_BYTES : Nat := 64 * 1024
def APP_KEYS_AUTHORIZATION_MAX_DEVICES : Nat := 64
def APP_KEYS_AUTHORIZATION_MAX_FUTURE_SKEW_SECS : Nat := 5 * 60

def u64Max : Nat := 2 ^ 64 - 1

/-! Text, as the standard library reads it. -/

/-- `char::is_whitespace`. -/
def isWhitespace (c : Char) : Bool :=
  (9 ≤ c.toNat && c.toNat ≤ 13) || c.toNat = 0x20 || c.toNat = 0x85 || c.toNat = 0xA0 ||
    c.toNat = 0x1680 || (0x2000 ≤ c.toNat && c.toNat ≤ 0x200A) || c.toNat = 0x2028 ||
    c.toNat = 0x2029 || c.toNat = 0x202F || c.toNat = 0x205F || c.toNat = 0x3000

def trim (text : String) : String :=
  String.ofList (((text.toList.dropWhile isWhitespace).reverse.dropWhile isWhitespace).reverse)

/-- `parse::<u64>()`: digits after an optional sign, within range. -/
def parseU64 (text : String) : Option Nat :=
  let digits : List Char := match text.toList with
    | '+' :: rest => rest
    | chars => chars
  let value := digits.foldl (fun n c => 10 * n + (c.toNat - '0'.toNat)) 0
  if digits ≠ [] ∧ digits.all Char.isDigit ∧ value ≤ u64Max then some value else none

def isAsciiHexDigit (c : Char) : Bool :=
  c.isDigit || (0x41 ≤ c.toNat && c.toNat ≤ 0x46) || (0x61 ≤ c.toNat && c.toNat ≤ 0x66)

/-- Only ASCII texts pass, so bytes are characters here. -/
def isUuidLike (value : String) : Bool :=
  value.toList.length = 36 &&
    (value.toList.zipIdx).all (fun (c, index) =>
      if index ∈ [8, 13, 18, 23] then c = '-' else isAsciiHexDigit c)

structure DeviceEntry (K : Type) where
  identityPubkey : K
  createdAt : Nat
  deriving DecidableEq, Repr

section

variable {K : Type} [LinearOrder K]

structure AppKeys (K : Type) [LinearOrder K] where
  devices : SortedMap K (DeviceEntry K)
  deriving DecidableEq

namespace AppKeys

def new (devices : List (DeviceEntry K)) : AppKeys K :=
  ⟨devices.foldl (fun map device => map.insert device.identityPubkey device) SortedMap.empty⟩

def getDevice (appKeys : AppKeys K) (identityPubkey : K) : Option (DeviceEntry K) :=
  appKeys.devices.get? identityPubkey

def getAllDevices (appKeys : AppKeys K) : List (DeviceEntry K) :=
  appKeys.devices.values

def hasEquivalentAuthorizationRoster (appKeys other : AppKeys K) : Bool :=
  appKeys.devices.length = other.devices.length &&
    appKeys.devices.entries.all (fun (pubkey, device) =>
      (other.devices.get? pubkey).any (fun otherDevice =>
        otherDevice.createdAt = device.createdAt))

end AppKeys

end

section Reading

variable {K T : Type} [LinearOrder K] [Primitives K T] [EventPrimitives K]

def tagValues (event : Event K) (name : String) : List String :=
  (event.tags.filterMap (fun tag =>
    if tag.head? = some name then tag[1]?.map trim else none)).filter (fun value => value ≠ "")

def isAppKeysEvent (event : Event K) : Bool :=
  event.kind = APP_KEYS_SNAPSHOT_KIND &&
    (tagValues event "type").any (fun value => value = APP_KEYS_FACT_TYPE)

def requiredTagValue (event : Event K) (name : String) : Except Error String :=
  match (tagValues event name).head? with
  | some value => .ok value
  | none => .error (.invalidEvent s!"AppKeys roster missing {name}")

def requiredInteger (event : Event K) (name : String) : Except Error Nat := do
  let value ← requiredTagValue event name
  match parseU64 value with
  | some number => .ok number
  | none => .error (.invalidEvent s!"AppKeys {name} must be an integer")

def pubkeyFromHex (text : String) : Except Error K := do
  match ← (EventPrimitives.hexDecode text).mapError Error.hex with
  | none => .error (.invalidEvent "Invalid pubkey length")
  | some bytes => (Primitives.publicKeyFromSlice bytes).mapError Error.invalidEvent

def pubkeyFromRequiredTag (event : Event K) (name : String) : Except Error K := do
  pubkeyFromHex (← requiredTagValue event name)

def canonicalProfileId (profileId : String) : Except Error String :=
  let normalized := (trim profileId).toLower
  if isUuidLike normalized then .ok normalized
  else .error (.invalidEvent "AppKeys profile id must be a UUID")

def appKeysProfileIdFromEvent (event : Event K) : Except Error String :=
  let subjects := event.tags.filterMap (fun tag =>
    if tag.head? = some "i" ∧ tag[2]? = some "subject" then
      tag[1]?.map (fun value => (trim value).toLower)
    else none)
  match subjects.head? with
  | some profileId => canonicalProfileId profileId
  | none => .error (.invalidEvent "AppKeys roster missing profile subject")

/-- The loop over the `device` tags of `AppKeys::from_event`. -/
def deviceEntries (event : Event K) : List (List String) → Except Error (List (DeviceEntry K))
  | [] => .ok []
  | ("device" :: pkHex :: createdAt :: _) :: rest => do
      let pubkey ← pubkeyFromHex pkHex
      let entries ← deviceEntries event rest
      pure (⟨pubkey, (parseU64 createdAt).getD event.createdAt⟩ :: entries)
  | _ :: rest => deviceEntries event rest

def AppKeys.fromEvent (event : Event K) : Except Error (AppKeys K) :=
  if !EventPrimitives.verifyEvent event then .error (.invalidEvent "Invalid signature")
  else if !isAppKeysEvent event then
    .error (.invalidEvent "Event is not an AppKeys roster snapshot")
  else if event.content ≠ "" then
    .error (.invalidEvent "AppKeys roster snapshot content must be empty")
  else do
    let schema ← requiredInteger event "schema"
    if schema ≠ APP_KEYS_SCHEMA then
      .error (.invalidEvent s!"Unsupported AppKeys roster schema {schema}")
    else do
      let ownerPubkey ← pubkeyFromRequiredTag event APP_KEYS_OWNER_PUBKEY_FACT
      if ownerPubkey ≠ event.pubkey then
        .error (.invalidEvent "AppKeys roster owner signer mismatch")
      else do
        let _profileId ← appKeysProfileIdFromEvent event
        let devices ← deviceEntries event event.tags
        pure (AppKeys.new devices)

def appKeysAuthorizationCandidate (owner : K) (event : Event K) (nowSecs : Nat) :
    Except Error (AppKeys K) :=
  if event.pubkey ≠ owner then
    .error (.invalidEvent "AppKeys authorization owner mismatch")
  else if event.createdAt >
      min (nowSecs + APP_KEYS_AUTHORIZATION_MAX_FUTURE_SKEW_SECS) u64Max then
    .error (.invalidEvent "AppKeys authorization event is too far in the future")
  else do
    let length ← (EventPrimitives.jsonLength event).mapError Error.json
    if length > APP_KEYS_AUTHORIZATION_MAX_EVENT_BYTES then
      .error (.invalidEvent "AppKeys authorization event is too large")
    else
      let deviceTags := event.tags.filter (fun tag => tag.head? = some "device")
      if deviceTags.length > APP_KEYS_AUTHORIZATION_MAX_DEVICES then
        .error (.invalidEvent "AppKeys authorization roster has too many devices")
      else if deviceTags.any (fun tag =>
          tag.length < 3 || ((tag[2]?).bind parseU64).isNone) then
        .error (.invalidEvent "AppKeys authorization device tag is malformed")
      else AppKeys.fromEvent event

end Reading

/-! The index. -/

inductive DeviceMembership where
  | authorized
  | excluded
  | missing
  | ambiguous
  deriving DecidableEq, Repr

structure AppKeysAuthorizationCandidate (K : Type) [LinearOrder K] where
  event : Event K
  appKeys : AppKeys K
  deriving DecidableEq

structure VerifiedAppKeysHead (K : Type) [LinearOrder K] where
  createdAtSecs : Nat
  candidates : SortedMap K (AppKeysAuthorizationCandidate K)
  deriving DecidableEq

structure VerifiedAppKeysIndex (K : Type) [LinearOrder K] where
  heads : SortedMap K (VerifiedAppKeysHead K)
  deriving DecidableEq

namespace VerifiedAppKeysIndex

variable {K T : Type} [LinearOrder K] [Primitives K T] [EventPrimitives K]

def default : VerifiedAppKeysIndex K := ⟨SortedMap.empty⟩

/-- The part of `ingest` after the event was read. -/
def ingestCandidate (index : VerifiedAppKeysIndex K) (event : Event K) (appKeys : AppKeys K) :
    Bool × VerifiedAppKeysIndex K :=
  match index.heads.get? event.pubkey with
  | none => (true, ⟨index.heads.insert event.pubkey
      ⟨event.createdAt, SortedMap.empty.insert event.id ⟨event, appKeys⟩⟩⟩)
  | some current =>
      if event.createdAt < current.createdAtSecs then (false, index)
      else
        let current : VerifiedAppKeysHead K :=
          if event.createdAt > current.createdAtSecs then ⟨event.createdAt, SortedMap.empty⟩
          else current
        if current.candidates.values.any (fun candidate =>
            candidate.appKeys.hasEquivalentAuthorizationRoster appKeys) then (false, index)
        else ((current.candidates.get? event.id).isNone, ⟨index.heads.insert event.pubkey
          { current with candidates := current.candidates.insert event.id ⟨event, appKeys⟩ }⟩)

def ingest (index : VerifiedAppKeysIndex K) (event : Event K) (nowSecs : Nat) :
    Except Error Bool × VerifiedAppKeysIndex K :=
  match appKeysAuthorizationCandidate event.pubkey event nowSecs with
  | .error e => (.error e, index)
  | .ok appKeys =>
      let (changed, index) := index.ingestCandidate event appKeys
      (.ok changed, index)

def membership (index : VerifiedAppKeysIndex K) (owner device : K) : DeviceMembership :=
  match index.heads.get? owner with
  | none => .missing
  | some head =>
      let membership := (head.candidates.values.map (fun candidate =>
        (candidate.appKeys.getDevice device).isSome)).dedup
      if membership.length ≠ 1 then .ambiguous
      else if true ∈ membership then .authorized
      else .excluded

def events (index : VerifiedAppKeysIndex K) : List (Event K) :=
  index.heads.values.flatMap (fun head =>
    head.candidates.values.map AppKeysAuthorizationCandidate.event)

def owners (index : VerifiedAppKeysIndex K) : List K :=
  index.heads.keys

def headCreatedAt (index : VerifiedAppKeysIndex K) (owner : K) : Option Nat :=
  (index.heads.get? owner).map VerifiedAppKeysHead.createdAtSecs

def appKeysForEvent (index : VerifiedAppKeysIndex K) (owner eventId : K) :
    Option (AppKeys K) :=
  (index.heads.get? owner).bind (fun head =>
    (head.candidates.get? eventId).map AppKeysAuthorizationCandidate.appKeys)

end VerifiedAppKeysIndex

end NostrDoubleRatchet
