import NostrDoubleRatchet.Pairwise.Codec
import NostrDoubleRatchet.Symbolic

/-!
Decoding an encoded rumor. The control tags of an event are found whatever tags stand
between them, so every kind comes back; a lifetime of zero seconds comes back as no
lifetime.
-/

namespace NostrDoubleRatchet

namespace PairwiseCodec

variable {K B : Type} [RumorPrimitives K B]

/-- Tags, events and the settings object survive being written and read. -/
structure RumorLaws (K : Type) {B : Type} [RumorPrimitives K B] : Prop where
  parseTag : ∀ key value : String, RumorPrimitives.parseTag K [key, value] = .ok [key, value]
  event : ∀ event : UnsignedEvent K, event.id.isSome = true →
    ∃ bytes, RumorPrimitives.eventToJson event = .ok bytes ∧
      RumorPrimitives.strictRumorFromJson bytes = .ok event
  settings : ∀ messageTtl, ∃ text,
    RumorPrimitives.settingsToJson K (chatSettingsPayload messageTtl) = .ok text ∧
      RumorPrimitives.valueFromJson K text = .ok (chatSettingsPayload messageTtl).toValue

theorem parseWord_toString (word : UInt64) : parseWord (toString word.toNat) = some word := by
  have hle : word.toNat ≤ u64Max := by
    have hlt := word.toNat_lt
    simp only [u64Max]
    omega
  rw [parseWord, parseU64_toString hle, Option.map_some, UInt64.ofNat_toNat]

/-! The tags of a built event. -/

def expirationTags (expiration : Option UInt64) : List (List String) :=
  expiration.toList.map (fun expiration => [EXPIRATION_TAG, toString expiration.toNat])

def builtTags (options : EncodeOptions) (extraTags : List (List String)) : List (List String) :=
  [[PROTOCOL_TAG, PROTOCOL_VALUE], [VERSION_TAG, VERSION_VALUE]] ++ extraTags ++
    [[MS_TAG, toString options.millis.toNat]] ++ expirationTags options.expiration

def builtEvent (author : K) (kind : Nat) (content : String) (options : EncodeOptions)
    (extraTags : List (List String)) : UnsignedEvent K :=
  UnsignedEvent.ensureId
    ⟨none, author, options.createdAtSecs, kind, builtTags options extraTags, content⟩

theorem buildEvent_eq (hlaws : RumorLaws K) (author : K) (kind : Nat) (content : String)
    (options : EncodeOptions) (extraTags : List (List String)) :
    buildEvent author kind content options extraTags =
      .ok (builtEvent author kind content options extraTags) := by
  have htag : ∀ key value : String, tag K [key, value] = .ok [key, value] := by
    intro key value
    rw [tag, hlaws.parseTag]
    rfl
  unfold buildEvent
  cases hexpiration : options.expiration with
  | none =>
      simp only [htag, builtEvent, builtTags, expirationTags, hexpiration, Option.toList_none,
        List.mapM_nil, List.map_nil]
      rfl
  | some expiration =>
      simp only [htag, builtEvent, builtTags, expirationTags, hexpiration, Option.toList_some,
        List.mapM_cons, List.mapM_nil, List.map_cons, List.map_nil]
      rfl

/-- Tags that name events, not control values. -/
def EventTags (tags : List (List String)) : Prop := ∀ tag ∈ tags, tag.head? = some "e"

theorem filter_eventTags {tags : List (List String)} (h : EventTags tags) {key : String}
    (hkey : key ≠ "e") : tags.filter (fun tag => tag.head? = some key) = [] := by
  rw [List.filter_eq_nil_iff]
  intro tag hmem
  simp [h tag hmem, hkey.symm]

theorem filterMap_eventTags (ids : List String) :
    (ids.map (fun id => ["e", id])).filterMap
      (fun tag => if tag.head? = some "e" then tag[1]? else none) = ids := by
  induction ids with
  | nil => rfl
  | cons id rest ih => simp

theorem singleTagValue_one {event : UnsignedEvent K} {key value : String}
    (h : event.tags.filter (fun tag => tag.head? = some key) = [[key, value]]) :
    singleTagValue event key = .ok (some value) := by
  unfold singleTagValue
  rw [h]
  rfl

theorem singleTagValue_none {event : UnsignedEvent K} {key : String}
    (h : event.tags.filter (fun tag => tag.head? = some key) = []) :
    singleTagValue event key = .ok none := by
  unfold singleTagValue
  rw [h]

/-! Each control value of a built event. -/

section

variable {tags : List (List String)} (htags : EventTags tags) (author : K) (kind : Nat)
  (content : String) (options : EncodeOptions)

include htags

/-- The event tags are passed over, so only the tags of the options are searched. -/
theorem filter_builtTags {key : String} (hkey : key ≠ "e") :
    (builtEvent author kind content options tags).tags.filter (fun tag => tag.head? = some key) =
      (builtTags options []).filter (fun tag => tag.head? = some key) := by
  change (builtTags options tags).filter _ = _
  unfold builtTags
  rw [List.filter_append, List.filter_append, List.filter_append, filter_eventTags htags hkey]
  simp only [List.append_nil, List.filter_append]

theorem protocolMarker_built :
    protocolMarker (builtEvent author kind content options tags) .strict = .ok .currentV1 := by
  have hprotocol : singleTagValue (builtEvent author kind content options tags) PROTOCOL_TAG =
      .ok (some PROTOCOL_VALUE) := by
    apply singleTagValue_one
    rw [filter_builtTags htags author kind content options (by decide)]
    unfold builtTags expirationTags
    cases options.expiration <;> rfl
  have hversion : singleTagValue (builtEvent author kind content options tags) VERSION_TAG =
      .ok (some VERSION_VALUE) := by
    apply singleTagValue_one
    rw [filter_builtTags htags author kind content options (by decide)]
    unfold builtTags expirationTags
    cases options.expiration <;> rfl
  unfold protocolMarker
  rw [hprotocol, hversion]
  rfl

theorem expiration_built :
    expiration (builtEvent author kind content options tags) = .ok options.expiration := by
  unfold expiration
  cases hexpiration : options.expiration with
  | none =>
      have hnone : singleTagValue (builtEvent author kind content options tags) EXPIRATION_TAG =
          .ok none := by
        apply singleTagValue_none
        rw [filter_builtTags htags author kind content options (by decide)]
        unfold builtTags expirationTags
        rw [hexpiration]
        rfl
      rw [hnone]
      rfl
  | some word =>
      have hsome : singleTagValue (builtEvent author kind content options tags) EXPIRATION_TAG =
          .ok (some (toString word.toNat)) := by
        apply singleTagValue_one
        rw [filter_builtTags htags author kind content options (by decide)]
        unfold builtTags expirationTags
        rw [hexpiration]
        rfl
      rw [hsome]
      dsimp only [bind, Except.bind]
      rw [parseWord_toString]

theorem controlTags_built :
    controlTags (builtEvent author kind content options tags) .currentV1 =
      .ok (some options.millis, options.expiration) := by
  have hmillis : singleTagValue (builtEvent author kind content options tags) MS_TAG =
      .ok (some (toString options.millis.toNat)) := by
    apply singleTagValue_one
    rw [filter_builtTags htags author kind content options (by decide)]
    unfold builtTags expirationTags
    cases options.expiration <;> rfl
  unfold controlTags
  rw [hmillis, expiration_built htags author kind content options]
  dsimp only [bind, Except.bind]
  rw [parseWord_toString]
  rfl

omit htags in
theorem tagValues_built :
    tagValues (builtEvent author kind content options tags) "e" =
      tags.filterMap (fun tag => if tag.head? = some "e" then tag[1]? else none) := by
  unfold tagValues
  change (builtTags options tags).filterMap _ = _
  unfold builtTags expirationTags
  rw [List.filterMap_append, List.filterMap_append, List.filterMap_append]
  cases options.expiration with
  | none => simp [PROTOCOL_TAG, VERSION_TAG, MS_TAG]
  | some word => simp [PROTOCOL_TAG, VERSION_TAG, MS_TAG, EXPIRATION_TAG]

/-- Decoding an encoded event comes down to reading its kind. -/
theorem decodeStrict_built [DecidableEq K] (hlaws : RumorLaws K) {rumor : PairwiseRumorKind}
    (hkind : rumorKind (builtEvent author kind content options tags) options.expiration =
      .ok rumor) :
    ∃ bytes, (buildEvent author kind content options tags >>= encodeEvent) = .ok bytes ∧
      decodeStrict bytes = .ok ⟨.currentV1, builtEvent author kind content options tags, rumor,
        some options.millis, options.expiration⟩ := by
  obtain ⟨bytes, hwrite, hread⟩ :=
    hlaws.event (builtEvent author kind content options tags) rfl
  refine ⟨bytes, ?_, ?_⟩
  · rw [buildEvent_eq hlaws]
    change (RumorPrimitives.eventToJson
      (builtEvent author kind content options tags)).mapError Error.json = _
    rw [hwrite]
    rfl
  · have hverify : (builtEvent author kind content options tags).verifyId = .ok () := by
      unfold UnsignedEvent.verifyId
      exact if_pos rfl
    unfold decodeStrict decodeWithMode
    rw [hread]
    dsimp only [bind, Except.bind, Except.mapError]
    have hidentified : ¬(DecodeMode.strict = .strict ∧
        (builtEvent author kind content options tags).id = none) := by
      rintro ⟨-, hnone⟩
      cases hnone
    have hensured : (builtEvent author kind content options tags).ensureId =
        builtEvent author kind content options tags := rfl
    rw [if_neg hidentified, hensured, hverify, protocolMarker_built htags]
    dsimp only
    rw [controlTags_built htags]
    dsimp only
    rw [hkind]
    rfl

end

/-! The kinds. -/

/-- What a lifetime means to a peer: zero seconds is none. -/
def ChatSettingsTtl.canonical : ChatSettingsTtl → ChatSettingsTtl
  | .seconds value => if value = 0 then .disablePeerExpiration else .seconds value
  | messageTtl => messageTtl

theorem eventTags_nil : EventTags [] := fun _ hmem => by cases hmem

theorem eventTags_map (ids : List String) : EventTags (ids.map (fun id => ["e", id])) := by
  intro tag hmem
  obtain ⟨id, -, rfl⟩ := List.mem_map.mp hmem
  rfl

theorem mapM_tag (hlaws : RumorLaws K) (ids : List String) :
    ids.mapM (fun id => tag K ["e", id]) = .ok (ids.map (fun id => ["e", id])) := by
  induction ids with
  | nil => rfl
  | cons id rest ih =>
      rw [List.mapM_cons, ih, tag, hlaws.parseTag]
      rfl

theorem tryFrom_asStr (receiptType : ReceiptType) :
    ReceiptType.tryFrom receiptType.asStr = .ok receiptType := by
  cases receiptType <;> decide

theorem parseChatSettings_payload (hlaws : RumorLaws K) {messageTtl : ChatSettingsTtl}
    (hset : messageTtl ≠ .clearPeerOverride) :
    ∃ text, RumorPrimitives.settingsToJson K (chatSettingsPayload messageTtl) = .ok text ∧
      parseChatSettings K text = .ok messageTtl.canonical := by
  obtain ⟨text, hwrite, hread⟩ := hlaws.settings messageTtl
  refine ⟨text, hwrite, ?_⟩
  unfold parseChatSettings
  rw [hread]
  cases messageTtl with
  | clearPeerOverride => exact absurd rfl hset
  | disablePeerExpiration => rfl
  | seconds value =>
      change (if value = 0 then Except.ok ChatSettingsTtl.disablePeerExpiration
        else .ok (.seconds value)) = _
      by_cases hzero : value = 0
      · rw [if_pos hzero, ChatSettingsTtl.canonical, if_pos hzero]
      · rw [if_neg hzero, ChatSettingsTtl.canonical, if_neg hzero]

variable [DecidableEq K]

variable (K) in
/-- Encoding succeeds, and what is decoded from the bytes is the current marker with
these contents. -/
def ComesBackAs (encoded : Except Error B) (kind : PairwiseRumorKind) (millis : UInt64)
    (expiration : Option UInt64) : Prop :=
  ∃ bytes, ∃ decoded : DecodedPairwiseRumor K, encoded = .ok bytes ∧
    decodeStrict bytes = .ok decoded ∧ decoded.marker = .currentV1 ∧ decoded.kind = kind ∧
    decoded.millis = some millis ∧ decoded.expiration = expiration

private theorem comesBackAs_built {tags : List (List String)} (htags : EventTags tags)
    (hlaws : RumorLaws K) (author : K) (kind : Nat) (content : String) (options : EncodeOptions)
    {rumor : PairwiseRumorKind}
    (hkind : rumorKind (builtEvent author kind content options tags) options.expiration =
      .ok rumor) :
    ComesBackAs K (buildEvent author kind content options tags >>= encodeEvent) rumor
      options.millis options.expiration := by
  obtain ⟨bytes, hwrite, hread⟩ :=
    decodeStrict_built htags author kind content options hlaws hkind
  exact ⟨bytes, _, hwrite, hread, rfl, rfl, rfl, rfl⟩

theorem encodeMessage_comesBack (hlaws : RumorLaws K) (author : K) (body : String)
    (options : EncodeOptions) :
    ComesBackAs K (encodeMessage author body options) (.message body [] options.expiration)
      options.millis options.expiration := by
  apply comesBackAs_built eventTags_nil hlaws
  change Except.ok (PairwiseRumorKind.message body (tagValues _ "e") options.expiration) = _
  rw [tagValues_built]
  rfl

theorem encodeTyping_comesBack (hlaws : RumorLaws K) (author : K) (options : EncodeOptions) :
    ComesBackAs K (encodeTyping author options) (.typing options.expiration) options.millis
      options.expiration := by
  apply comesBackAs_built eventTags_nil hlaws
  rfl

theorem encodeReceipt_comesBack (hlaws : RumorLaws K) (author : K) (receiptType : ReceiptType)
    (eventIds : List String) (options : EncodeOptions) :
    ComesBackAs K (encodeReceipt author receiptType eventIds options)
      (.receipt receiptType eventIds options.expiration) options.millis options.expiration := by
  unfold encodeReceipt receiptEvent
  rw [mapM_tag hlaws]
  apply comesBackAs_built (eventTags_map eventIds) hlaws
  change (do
    let receiptType ← ReceiptType.tryFrom receiptType.asStr
    pure (PairwiseRumorKind.receipt receiptType (tagValues _ "e") options.expiration)) = _
  rw [tryFrom_asStr, tagValues_built, filterMap_eventTags]
  rfl

theorem encodeReaction_comesBack (hlaws : RumorLaws K) (author : K)
    (targetEventId emoji : String) (options : EncodeOptions) :
    ComesBackAs K (encodeReaction author targetEventId emoji options)
      (.reaction emoji (some targetEventId) options.expiration) options.millis
      options.expiration := by
  unfold encodeReaction reactionEvent
  rw [tag, hlaws.parseTag]
  apply comesBackAs_built (eventTags_map [targetEventId]) hlaws
  change Except.ok (PairwiseRumorKind.reaction emoji (tagValues _ "e").head?
    options.expiration) = _
  rw [tagValues_built]
  rfl

theorem encodeChatSettings_comesBack (hlaws : RumorLaws K) (author : K)
    {messageTtl : ChatSettingsTtl} (hset : messageTtl ≠ .clearPeerOverride)
    (createdAtSecs millis : UInt64) :
    ComesBackAs K (encodeChatSettings author messageTtl createdAtSecs millis)
      (.chatSettings messageTtl.canonical) millis none := by
  obtain ⟨text, hwrite, hread⟩ := parseChatSettings_payload hlaws hset
  unfold encodeChatSettings chatSettingsEvent
  rw [hwrite]
  apply comesBackAs_built eventTags_nil hlaws author CHAT_SETTINGS_KIND text
    (EncodeOptions.new createdAtSecs millis)
  change (do
    let messageTtl ← parseChatSettings K text
    pure (PairwiseRumorKind.chatSettings messageTtl)) = _
  rw [hread]
  rfl

/-- Every encoder is undone by strict decoding, which gives back the kind, the
milliseconds, the expiration and the current marker; a lifetime of zero seconds comes
back as no lifetime. -/
theorem decodeStrict_encode (hlaws : RumorLaws K) (author : K) :
    (∀ body options, ComesBackAs K (encodeMessage author body options)
      (.message body [] options.expiration) options.millis options.expiration) ∧
    (∀ options, ComesBackAs K (encodeTyping author options) (.typing options.expiration)
      options.millis options.expiration) ∧
    (∀ receiptType eventIds options,
      ComesBackAs K (encodeReceipt author receiptType eventIds options)
        (.receipt receiptType eventIds options.expiration) options.millis
        options.expiration) ∧
    (∀ targetEventId emoji options,
      ComesBackAs K (encodeReaction author targetEventId emoji options)
        (.reaction emoji (some targetEventId) options.expiration) options.millis
        options.expiration) ∧
    ∀ messageTtl createdAtSecs millis, messageTtl ≠ .clearPeerOverride →
      ComesBackAs K (encodeChatSettings author messageTtl createdAtSecs millis)
        (.chatSettings messageTtl.canonical) millis none :=
  ⟨fun body options => encodeMessage_comesBack hlaws author body options,
    fun options => encodeTyping_comesBack hlaws author options,
    fun receiptType eventIds options =>
      encodeReceipt_comesBack hlaws author receiptType eventIds options,
    fun targetEventId emoji options =>
      encodeReaction_comesBack hlaws author targetEventId emoji options,
    fun _ createdAtSecs millis hset =>
      encodeChatSettings_comesBack hlaws author hset createdAtSecs millis⟩

end PairwiseCodec

namespace Symbolic

open PairwiseCodec

/-- The text `serde_json` writes before the lifetime in a settings object. -/
def settingsHead : List Char :=
  "\x7b\"type\":\"chat-settings\",\"v\":1,\"messageTtlSeconds\":".toList

def settingsTail : List Char := "\x7d".toList

def settingsToJson (payload : ChatSettingsPayloadV1) : Except String String :=
  if payload.typ = "chat-settings" ∧ payload.v = 1 then
    match payload.messageTtlSeconds.getD .null with
    | .null => .ok (String.ofList (settingsHead ++ "null".toList ++ settingsTail))
    | .number value =>
        .ok (String.ofList (settingsHead ++ (toString value.toNat).toList ++ settingsTail))
    | _ => .error "unsupported"
  else .error "unsupported"

def valueFromJson (text : String) : Except String JsonValue :=
  let lifetime := (text.toList.drop settingsHead.length).dropLast
  if text.toList ≠ settingsHead ++ lifetime ++ settingsTail then .error "unsupported"
  else
    let value : Option JsonValue :=
      if lifetime = "null".toList then some .null
      else (parseWord (String.ofList lifetime)).map JsonValue.number
    match value with
    | none => .error "unsupported"
    | some value => .ok (.object [("type", .string "chat-settings"), ("v", .number 1),
        ("messageTtlSeconds", value)])

/-- A payload is the event itself; only its JSON inside is text. -/
structure RumorBytes where
  event : PairwiseCodec.UnsignedEvent KeyTerm

instance rumorPrimitives : RumorPrimitives KeyTerm RumorBytes where
  eventId pubkey createdAt kind tags content :=
    .absorb (.absorb (.expandByte pubkey createdAt.toNat kind) (tagsTerm tags)) (.digest content)
  parseTag parts := .ok parts
  eventToJson event := .ok ⟨event⟩
  strictRumorFromJson bytes := .ok bytes.event
  settingsToJson := settingsToJson
  valueFromJson := valueFromJson

private theorem valueFromJson_framed (lifetime : List Char) :
    (((String.ofList (settingsHead ++ lifetime ++ settingsTail)).toList.drop
      settingsHead.length).dropLast) = lifetime := by
  rw [String.toList_ofList, List.append_assoc, List.drop_left]
  exact List.dropLast_concat

private theorem toString_ne_null (n : Nat) : (toString n).toList ≠ "null".toList := by
  intro h
  have hdigit : 'n'.isDigit = true := by
    apply Nat.isDigit_of_mem_toDigits (b := 10) (n := n) (by decide) (by decide)
    rw [← toList_toString, h]
    decide
  exact absurd hdigit (by decide)

theorem rumorLaws : RumorLaws KeyTerm where
  parseTag _ _ := rfl
  event event _ := ⟨⟨event⟩, rfl, rfl⟩
  settings messageTtl := by
    have hnull : valueFromJson (String.ofList (settingsHead ++ "null".toList ++ settingsTail)) =
        .ok (.object [("type", .string "chat-settings"), ("v", .number 1),
          ("messageTtlSeconds", .null)]) := by
      unfold valueFromJson
      rw [valueFromJson_framed, String.toList_ofList]
      rfl
    cases messageTtl with
    | clearPeerOverride => exact ⟨_, rfl, hnull⟩
    | disablePeerExpiration => exact ⟨_, rfl, hnull⟩
    | seconds value =>
        refine ⟨_, rfl, ?_⟩
        change valueFromJson
          (String.ofList (settingsHead ++ (toString value.toNat).toList ++ settingsTail)) = _
        unfold valueFromJson
        rw [valueFromJson_framed, String.toList_ofList]
        simp only [ne_eq, not_true_eq_false, if_false, if_neg (toString_ne_null value.toNat),
          String.ofList_toList, parseWord_toString, Option.map_some]
        rfl

/-- A lifetime of zero seconds comes back as another value. -/
theorem zero_seconds_not_preserved :
    (do
      let bytes ← encodeChatSettings (KeyTerm.point (.secret 0)) (.seconds 0) 1710000000
        1710000000123
      let decoded : DecodedPairwiseRumor KeyTerm ← decodeStrict bytes
      pure decoded.kind : Except PairwiseCodec.Error PairwiseRumorKind).toOption =
      some (.chatSettings .disablePeerExpiration) ∧
    PairwiseRumorKind.chatSettings .disablePeerExpiration ≠ .chatSettings (.seconds 0) := by
  constructor
  · decide +kernel
  · decide

/-- A reaction and a lifetime of one day, written and read back. -/
theorem decodeStrict_encode_one :
    ComesBackAs KeyTerm
      (encodeReaction (KeyTerm.point (.secret 0)) "abc" "+" ⟨1710000000, 1710000000123, some 99⟩)
      (.reaction "+" (some "abc") (some 99)) 1710000000123 (some 99) ∧
    ComesBackAs KeyTerm
      (encodeChatSettings (KeyTerm.point (.secret 0)) (.seconds 86400) 1710000000 1710000000123)
      (.chatSettings (.seconds 86400)) 1710000000123 none :=
  ⟨(decodeStrict_encode rumorLaws (KeyTerm.point (.secret 0))).2.2.2.1 "abc" "+"
      ⟨1710000000, 1710000000123, some 99⟩,
    (decodeStrict_encode rumorLaws (KeyTerm.point (.secret 0))).2.2.2.2 (.seconds 86400)
      1710000000 1710000000123 (by decide)⟩

end Symbolic

end NostrDoubleRatchet
