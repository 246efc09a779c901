import NostrDoubleRatchet.Lib.InsertionMap
import NostrDoubleRatchet.TypeScript.GroupMeta

/-!
Reading a roster out of an AppKeys event, as `AppKeys.fromEvent` of `AppKeys.ts` does with the
helpers of `AppKeysEvents.ts`. The encrypted labels are left out.
-/

namespace NostrDoubleRatchet.TypeScript

/-- The numbers that integers become. -/
inductive JsNumber where
  | integer (value : Int)
  | infinity (negative : Bool)
  deriving DecidableEq

namespace JsNumber

/-- The nearest double, ties to even; `none` past the greatest one. -/
def roundToDouble (n : Nat) : Option Nat :=
  if n < 2 ^ 53 then some n
  else
    let shift := n.log2 - 52
    let quotient := n / 2 ^ shift
    let remainder := n % 2 ^ shift
    let half := 2 ^ (shift - 1)
    let rounded :=
      if half < remainder ∨ (remainder = half ∧ quotient % 2 = 1) then quotient + 1 else quotient
    if rounded * 2 ^ shift < 2 ^ 1024 then some (rounded * 2 ^ shift) else none

def ofInt (n : Int) : JsNumber :=
  match roundToDouble n.natAbs with
  | some value => .integer (if n < 0 then -value else value)
  | none => .infinity (n < 0)

end JsNumber

/-- `parseInt(text, 10)` before it is rounded: the digits that the text begins with, after white
space and a sign. -/
def parseInt (text : String) : Option Int :=
  let chars := text.toList.dropWhile isJsWhitespace
  let negative := chars.head? = some '-'
  let unsigned := if chars.head? = some '-' ∨ chars.head? = some '+' then chars.tail else chars
  let digits := unsigned.takeWhile Char.isDigit
  if digits = [] then none
  else
    let value : Int := Nat.ofDigitChars 10 digits 0
    some (if negative then -value else value)

namespace AppKeysEvents

def APP_KEYS_SNAPSHOT_KIND : Nat := 37368

def APP_KEYS_FACT_TYPE : String := "app_keys_roster_snapshot"

def APP_KEYS_SCHEMA : Nat := 1

def APP_KEYS_OWNER_PUBKEY_FACT : String := "owner_pubkey"

structure DeviceEntry where
  identityPubkey : String
  createdAt : JsNumber
  deriving DecidableEq

structure AppKeys where
  devices : InsertionMap String DeviceEntry

def AppKeys.new (devices : List DeviceEntry) : AppKeys :=
  ⟨devices.foldl (fun map device => map.set device.identityPubkey device) InsertionMap.empty⟩

def requireTagValue (tags : List (List String)) (name : String) : Except String String :=
  match firstTagValue tags name with
  | none => .error s!"AppKeys roster missing {name}"
  | some value => .ok value

/-- `toLowerCase` matters for the letters of a hex text only. -/
def normalizeHexPubkey (value : String) : Option String :=
  let trimmed := String.ofList ((jsTrim value).toList.map Char.toLower)
  if isHex64 trimmed then some trimmed else none

def requireHexPubkey (value label : String) : Except String String :=
  match normalizeHexPubkey value with
  | none => .error s!"AppKeys {label} pubkey must be 64-char hex"
  | some normalized => .ok normalized

def requireInteger (value label : String) : Except String Nat :=
  if value.toList = [] ∨ ¬ value.toList.all Char.isDigit then
    .error s!"AppKeys {label} must be an integer"
  else
    let parsed := Nat.ofDigitChars 10 value.toList 0
    if parsed > maxSafeInteger then .error s!"AppKeys {label} is too large" else .ok parsed

/-- The pattern of `profileIdFromTags`, in either case: a UUID of version 1 to 8 and of the
variant 8 to b. -/
def isProfileId (text : String) : Bool :=
  text.toList.length = 36 &&
    (text.toList.zipIdx).all (fun (c, index) =>
      if index ∈ [8, 13, 18, 23] then c = '-'
      else if index = 14 then '1' ≤ c && c ≤ '8'
      else if index = 19 then ['8', '9', 'a', 'b', 'A', 'B'].contains c
      else isAsciiHexDigit c)

def profileIdFromTags (tags : List (List String)) : Except String String :=
  let subject := tags.find? (fun tag => tag.head? = some "i" && tag[2]? = some "subject")
  match (subject.bind (·[1]?)).map jsTrim with
  | some profileId =>
      if profileId = "" ∨ ¬ isProfileId profileId then
        .error "AppKeys roster missing profile subject"
      else .ok (String.ofList (profileId.toList.map Char.toLower))
  | none => .error "AppKeys roster missing profile subject"

def isAppKeysSnapshotEvent (event : VerifiedEvent) : Bool :=
  event.kind = APP_KEYS_SNAPSHOT_KIND &&
    (tagValues event.tags "type").contains APP_KEYS_FACT_TYPE

/-- `parseInt(createdAt, 10) || event.created_at`. -/
def deviceCreatedAt (createdAt : String) (eventCreatedAt : Nat) : JsNumber :=
  match parseInt createdAt with
  | none => .integer eventCreatedAt
  | some n => if n = 0 then .integer eventCreatedAt else JsNumber.ofInt n

/-- The entries of the `device` tags with at least three elements. -/
def deviceEntries (event : VerifiedEvent) : List DeviceEntry :=
  event.tags.filterMap (fun tag =>
    match tag with
    | "device" :: identityPubkey :: createdAt :: _ =>
        some ⟨String.ofList ((jsTrim identityPubkey).toList.map Char.toLower),
          deviceCreatedAt createdAt event.createdAt⟩
    | _ => none)

def AppKeys.fromEvent (verifyEvent : VerifiedEvent → Bool) (event : VerifiedEvent) :
    Except String AppKeys := do
  ensure (event.sig ≠ "") "Event is not signed"
  ensure (verifyEvent event) "Event signature is invalid"
  ensure (isAppKeysSnapshotEvent event) "Event is not an AppKeys roster snapshot"
  ensure (event.content = "") "AppKeys roster snapshot content must be empty"
  let schema ← requireInteger (← requireTagValue event.tags "schema") "schema"
  ensure (schema = APP_KEYS_SCHEMA) s!"Unsupported AppKeys roster schema {schema}"
  let ownerPubkey ←
    requireHexPubkey (← requireTagValue event.tags APP_KEYS_OWNER_PUBKEY_FACT) "owner"
  ensure (ownerPubkey = event.pubkey) "AppKeys roster owner signer mismatch"
  let _profileId ← profileIdFromTags event.tags
  pure (AppKeys.new (deviceEntries event))

end AppKeysEvents

end NostrDoubleRatchet.TypeScript
