import NostrDoubleRatchet.Text

/-!
The inner rumors of a pairwise session, as in the pairwise codec crate: an unsigned event
whose tags carry the protocol marker and the control values. JSON and event ids come from
`serde_json` and `nostr`.
-/

namespace NostrDoubleRatchet

namespace PairwiseCodec

def PROTOCOL_TAG : String := "ndr-protocol"
def PROTOCOL_VALUE : String := "pairwise-rumor"
def VERSION_TAG : String := "ndr-version"
def VERSION_VALUE : String := "1"
def MS_TAG : String := "ms"
def EXPIRATION_TAG : String := "expiration"

def CHAT_MESSAGE_KIND : Nat := 14
def REACTION_KIND : Nat := 7
def RECEIPT_KIND : Nat := 15
def TYPING_KIND : Nat := 25
def CHAT_SETTINGS_KIND : Nat := 10448

inductive Error where
  | json (message : String)
  | nostrEvent (message : String)
  | nostrTag (message : String)
  | unknownProtocol (value : String)
  | missingProtocol
  | missingVersion
  | unsupportedVersion (value : String)
  | invalidReceiptType (value : String)
  | invalidChatSettings
  | missingEventId
  | duplicateControlTag (key : String)
  | missingControlTag (key : String)
  | invalidControlTag (key : String)
  deriving DecidableEq, Repr

inductive DecodeMode where
  | strict
  | allowLegacyUnmarked
  deriving DecidableEq, Repr

inductive ProtocolMarker where
  | currentV1
  | legacyUnmarked
  deriving DecidableEq, Repr

structure EncodeOptions where
  createdAtSecs : UInt64
  millis : UInt64
  expiration : Option UInt64

def EncodeOptions.new (createdAtSecs millis : UInt64) : EncodeOptions :=
  ⟨createdAtSecs, millis, none⟩

inductive ReceiptType where
  | delivered
  | seen
  deriving DecidableEq, Repr

def ReceiptType.asStr : ReceiptType → String
  | .delivered => "delivered"
  | .seen => "seen"

def ReceiptType.tryFrom (value : String) : Except Error ReceiptType :=
  if value = "delivered" then .ok .delivered
  else if value = "seen" then .ok .seen
  else .error (.invalidReceiptType value)

inductive ChatSettingsTtl where
  | clearPeerOverride
  | disablePeerExpiration
  | seconds (value : UInt64)
  deriving DecidableEq, Repr

inductive PairwiseRumorKind where
  | message (body : String) (eventIds : List String) (expiration : Option UInt64)
  | typing (expiration : Option UInt64)
  | receipt (receiptType : ReceiptType) (eventIds : List String) (expiration : Option UInt64)
  | reaction (emoji : String) (eventId : Option String) (expiration : Option UInt64)
  | chatSettings (messageTtl : ChatSettingsTtl)
  | custom
  deriving DecidableEq, Repr

structure UnsignedEvent (K : Type) where
  id : Option K
  pubkey : K
  createdAt : UInt64
  kind : Nat
  tags : List (List String)
  content : String
  deriving DecidableEq, Repr

structure DecodedPairwiseRumor (K : Type) where
  marker : ProtocolMarker
  event : UnsignedEvent K
  kind : PairwiseRumorKind
  millis : Option UInt64
  expiration : Option UInt64

/-- A parsed JSON value; a number is kept when it is a `u64`. -/
inductive JsonValue where
  | null
  | bool (value : Bool)
  | number (value : UInt64)
  | otherNumber (text : String)
  | string (value : String)
  | array (values : List JsonValue)
  | object (fields : List (String × JsonValue))

namespace JsonValue

def get : JsonValue → String → Option JsonValue
  | .object fields, key => (fields.find? (fun field => field.1 = key)).map Prod.snd
  | _, _ => none

def asStr : JsonValue → Option String
  | .string value => some value
  | _ => none

def asU64 : JsonValue → Option UInt64
  | .number value => some value
  | _ => none

end JsonValue

structure ChatSettingsPayloadV1 where
  typ : String
  v : UInt64
  messageTtlSeconds : Option JsonValue

/-- The derived serialisation. An absent `Option` field is written as `null`. -/
def ChatSettingsPayloadV1.toValue (payload : ChatSettingsPayloadV1) : JsonValue :=
  .object [("type", .string payload.typ), ("v", .number payload.v),
    ("messageTtlSeconds", payload.messageTtlSeconds.getD .null)]

/-- Event ids, tags and JSON. `B` holds the bytes of a payload. -/
class RumorPrimitives (K : Type) (B : outParam Type) where
  eventId : K → UInt64 → Nat → List (List String) → String → K
  parseTag : List String → Except String (List String)
  eventToJson : UnsignedEvent K → Except String B
  strictRumorFromJson : B → Except String (UnsignedEvent K)
  settingsToJson : ChatSettingsPayloadV1 → Except String String
  valueFromJson : String → Except String JsonValue

variable {K B : Type} [RumorPrimitives K B]

namespace UnsignedEvent

def computedId (event : UnsignedEvent K) : K :=
  RumorPrimitives.eventId event.pubkey event.createdAt event.kind event.tags event.content

def ensureId (event : UnsignedEvent K) : UnsignedEvent K :=
  { event with id := some (event.id.getD event.computedId) }

def verifyId [DecidableEq K] (event : UnsignedEvent K) : Except Error Unit :=
  if event.id = some event.computedId then .ok () else .error (.nostrEvent "invalid event id")

end UnsignedEvent

variable (K) in
def tag (parts : List String) : Except Error (List String) :=
  (RumorPrimitives.parseTag K parts).mapError Error.nostrTag

def buildEvent (author : K) (kind : Nat) (content : String) (options : EncodeOptions)
    (extraTags : List (List String)) : Except Error (UnsignedEvent K) := do
  let protocol ← tag K [PROTOCOL_TAG, PROTOCOL_VALUE]
  let version ← tag K [VERSION_TAG, VERSION_VALUE]
  let millis ← tag K [MS_TAG, toString options.millis.toNat]
  let expiration ← (options.expiration.toList.mapM (fun expiration =>
    tag K [EXPIRATION_TAG, toString expiration.toNat]))
  pure (UnsignedEvent.ensureId {
    id := none
    pubkey := author
    createdAt := options.createdAtSecs
    kind := kind
    tags := [protocol, version] ++ extraTags ++ [millis] ++ expiration
    content := content })

def messageEvent (author : K) (body : String) (options : EncodeOptions) :
    Except Error (UnsignedEvent K) :=
  buildEvent author CHAT_MESSAGE_KIND body options []

def typingEvent (author : K) (options : EncodeOptions) : Except Error (UnsignedEvent K) :=
  buildEvent author TYPING_KIND "typing" options []

def receiptEvent (author : K) (receiptType : ReceiptType) (eventIds : List String)
    (options : EncodeOptions) : Except Error (UnsignedEvent K) := do
  let tags ← eventIds.mapM (fun eventId => tag K ["e", eventId])
  buildEvent author RECEIPT_KIND receiptType.asStr options tags

def reactionEvent (author : K) (targetEventId emoji : String) (options : EncodeOptions) :
    Except Error (UnsignedEvent K) := do
  let target ← tag K ["e", targetEventId]
  buildEvent author REACTION_KIND emoji options [target]

def chatSettingsPayload (messageTtl : ChatSettingsTtl) : ChatSettingsPayloadV1 where
  typ := "chat-settings"
  v := 1
  messageTtlSeconds := match messageTtl with
    | .clearPeerOverride => none
    | .disablePeerExpiration => some .null
    | .seconds seconds => some (.number seconds)

def chatSettingsEvent (author : K) (messageTtl : ChatSettingsTtl)
    (createdAtSecs millis : UInt64) : Except Error (UnsignedEvent K) := do
  let content ← (RumorPrimitives.settingsToJson K (chatSettingsPayload messageTtl)).mapError
    Error.json
  buildEvent author CHAT_SETTINGS_KIND content (EncodeOptions.new createdAtSecs millis) []

def encodeEvent (event : UnsignedEvent K) : Except Error B :=
  (RumorPrimitives.eventToJson event.ensureId).mapError Error.json

def encodeMessage (author : K) (body : String) (options : EncodeOptions) : Except Error B :=
  messageEvent author body options >>= encodeEvent

def encodeTyping (author : K) (options : EncodeOptions) : Except Error B :=
  typingEvent author options >>= encodeEvent

def encodeReceipt (author : K) (receiptType : ReceiptType) (eventIds : List String)
    (options : EncodeOptions) : Except Error B :=
  receiptEvent author receiptType eventIds options >>= encodeEvent

def encodeReaction (author : K) (targetEventId emoji : String) (options : EncodeOptions) :
    Except Error B :=
  reactionEvent author targetEventId emoji options >>= encodeEvent

def encodeChatSettings (author : K) (messageTtl : ChatSettingsTtl)
    (createdAtSecs millis : UInt64) : Except Error B :=
  chatSettingsEvent author messageTtl createdAtSecs millis >>= encodeEvent

/-! Decoding. -/

/-- `parse::<u64>()`. -/
def parseWord (text : String) : Option UInt64 := (parseU64 text).map UInt64.ofNat

def singleTagValue (event : UnsignedEvent K) (key : String) : Except Error (Option String) :=
  match event.tags.filter (fun tag => tag.head? = some key) with
  | [] => .ok none
  | first :: others =>
      match first[1]? with
      | none => .error (.invalidControlTag key)
      | some value =>
          if others ≠ [] then .error (.duplicateControlTag key) else .ok (some value)

def tagValues (event : UnsignedEvent K) (key : String) : List String :=
  event.tags.filterMap (fun tag => if tag.head? = some key then tag[1]? else none)

def expiration (event : UnsignedEvent K) : Except Error (Option UInt64) := do
  match ← singleTagValue event EXPIRATION_TAG with
  | none => .ok none
  | some value =>
      match parseWord value with
      | none => .error (.invalidControlTag EXPIRATION_TAG)
      | some word => .ok (some word)

def protocolMarker (event : UnsignedEvent K) (mode : DecodeMode) :
    Except Error ProtocolMarker := do
  match ← singleTagValue event PROTOCOL_TAG with
  | none =>
      if mode = .allowLegacyUnmarked then .ok .legacyUnmarked else .error .missingProtocol
  | some value =>
      if value ≠ PROTOCOL_VALUE then .error (.unknownProtocol value)
      else
        match ← singleTagValue event VERSION_TAG with
        | none => .error .missingVersion
        | some value =>
            if value = VERSION_VALUE then .ok .currentV1
            else .error (.unsupportedVersion value)

def controlTags (event : UnsignedEvent K) (marker : ProtocolMarker) :
    Except Error (Option UInt64 × Option UInt64) := do
  let millis ← (match marker with
    | .legacyUnmarked => .ok none
    | .currentV1 => do
        match ← singleTagValue event MS_TAG with
        | none => .error (.missingControlTag MS_TAG)
        | some value =>
            match parseWord value with
            | none => .error (.invalidControlTag MS_TAG)
            | some word => .ok (some word) : Except Error (Option UInt64))
  pure (millis, ← expiration event)

variable (K) in
def parseChatSettings (content : String) : Except Error ChatSettingsTtl := do
  let value ← (RumorPrimitives.valueFromJson K content).mapError Error.json
  if (value.get "type").bind JsonValue.asStr ≠ some "chat-settings" ∨
      (value.get "v").bind JsonValue.asU64 ≠ some 1 then
    .error .invalidChatSettings
  else
    match value.get "messageTtlSeconds" with
    | none => .ok .clearPeerOverride
    | some .null => .ok .disablePeerExpiration
    | some (.number seconds) =>
        if seconds = 0 then .ok .disablePeerExpiration else .ok (.seconds seconds)
    | _ => .error .invalidChatSettings

def rumorKind (event : UnsignedEvent K) (expiration : Option UInt64) :
    Except Error PairwiseRumorKind :=
  if event.kind = CHAT_MESSAGE_KIND then
    .ok (.message event.content (tagValues event "e") expiration)
  else if event.kind = TYPING_KIND then .ok (.typing expiration)
  else if event.kind = RECEIPT_KIND then do
    let receiptType ← ReceiptType.tryFrom event.content
    pure (.receipt receiptType (tagValues event "e") expiration)
  else if event.kind = REACTION_KIND then
    .ok (.reaction event.content (tagValues event "e").head? expiration)
  else if event.kind = CHAT_SETTINGS_KIND then do
    let messageTtl ← parseChatSettings K event.content
    pure (.chatSettings messageTtl)
  else .ok .custom

def decodeWithMode [DecidableEq K] (payload : B) (mode : DecodeMode) :
    Except Error (DecodedPairwiseRumor K) := do
  let event ← (RumorPrimitives.strictRumorFromJson payload).mapError Error.json
  if mode = .strict ∧ event.id = none then .error .missingEventId
  else
    let event := event.ensureId
    event.verifyId
    let marker ← protocolMarker event mode
    let (millis, expiration) ← controlTags event marker
    let kind ← rumorKind event expiration
    pure ⟨marker, event, kind, millis, expiration⟩

def decodeStrict [DecidableEq K] (payload : B) : Except Error (DecodedPairwiseRumor K) :=
  decodeWithMode payload .strict

end PairwiseCodec

end NostrDoubleRatchet
