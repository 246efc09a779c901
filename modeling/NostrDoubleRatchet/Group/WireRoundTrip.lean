import NostrDoubleRatchet.Text
import NostrDoubleRatchet.Symbolic
import NostrDoubleRatchet.Group.Wire
import NostrDoubleRatchet.Group.Runs

/-!
Decoding an encoded group command. Messages, distributions and repair requests come back as
they were. A group record comes back with its texts trimmed and its blank texts dropped, so
two members agree on a revision exactly when the record already had its texts so.
-/

namespace NostrDoubleRatchet

namespace GroupWire

/-- Tags, events, envelopes and contents survive being written and read, and an envelope
is not read as an event. -/
structure WireLaws (K : Type) {T : Type} [WirePrimitives K T] : Prop where
  parseTag : ∀ (key : String) (rest : List String),
    WirePrimitives.parseTag K (key :: rest) = .ok (key :: rest)
  event : ∀ (event : UnsignedEvent K T) (bytes : T),
    WirePrimitives.eventToJson event = .ok bytes → WirePrimitives.eventFromJson bytes = .ok event
  envelope : ∀ (envelope : GroupWireEnvelopeV1 K T) (bytes : T),
    WirePrimitives.envelopeToJson envelope = .ok bytes →
      WirePrimitives.envelopeFromJson bytes = .ok envelope ∧
        ∃ error, WirePrimitives.eventFromJson (K := K) bytes = .error error
  distribution : ∀ (content : SenderKeyDistributionContent) (text : T),
    WirePrimitives.distributionToJson K content = .ok text →
      WirePrimitives.distributionFromJson K text = .ok content
  repairRequest : ∀ (content : SenderKeyRepairRequestContent) (text : T),
    WirePrimitives.repairRequestToJson K content = .ok text →
      WirePrimitives.repairRequestFromJson K text = .ok content

/-- The hexadecimal text of a key has no blanks and reads back as the key. -/
structure HexRoundTrip {K T : Type} [Primitives K T] [EventPrimitives K] (key : K) : Prop where
  decode : EventPrimitives.hexDecode (Primitives.toHex key) = .ok (some key)
  trimmed : Trimmed (Primitives.toHex key)
  ne_empty : Primitives.toHex key ≠ ""

/-! Numbers. -/

/-- The digits are read as their number, as long as it fits. -/
theorem parseDigits_eq_ok {max : Nat} {digits : List Char} {value n : Nat} (h : value ≤ max) :
    parseDigits max digits value = .ok n ↔
      (∀ c ∈ digits, c.isDigit = true) ∧
        digits.foldl (fun m c => 10 * m + (c.toNat - '0'.toNat)) value = n ∧ n ≤ max := by
  induction digits generalizing value with
  | nil =>
      constructor
      · intro hok
        cases hok
        exact ⟨fun c hmem => absurd hmem List.not_mem_nil, rfl, h⟩
      · rintro ⟨-, rfl, -⟩
        rfl
  | cons c rest ih =>
      rw [parseDigits, List.foldl_cons]
      by_cases hdigit : c.isDigit = true
      · rw [hdigit]
        dsimp only
        rw [if_neg (by decide)]
        by_cases hmax : max < 10 * value + (c.toNat - '0'.toNat)
        · have hle := le_foldl_digits rest (10 * value + (c.toNat - '0'.toNat))
          rw [if_pos hmax]
          constructor
          · intro hok
            cases hok
          · rintro ⟨-, hvalue, hn⟩
            omega
        · rw [if_neg hmax, ih (by omega)]
          constructor
          · rintro ⟨hall, hvalue, hn⟩
            refine ⟨?_, hvalue, hn⟩
            intro other hmem
            rcases List.mem_cons.mp hmem with rfl | hmem
            · exact hdigit
            · exact hall other hmem
          · rintro ⟨hall, hvalue, hn⟩
            exact ⟨fun other hmem => hall other (List.mem_cons_of_mem _ hmem), hvalue, hn⟩
      · constructor
        · intro hok
          rw [if_pos (by simp [hdigit])] at hok
          cases hok
        · rintro ⟨hall, -⟩
          exact absurd (hall c List.mem_cons_self) hdigit

theorem parseUnsigned_toString {max n : Nat} (h : n ≤ max) :
    parseUnsigned max (toString n) = .ok n := by
  have hall : ∀ c ∈ Nat.toDigits 10 n, c.isDigit = true :=
    fun c hmem => Nat.isDigit_of_mem_toDigits (by decide) (by decide) hmem
  have hvalue : (Nat.toDigits 10 n).foldl (fun m c => 10 * m + (c.toNat - '0'.toNat)) 0 = n := by
    rw [← Nat.ofDigitChars_eq_foldl]
    exact Nat.ofDigitChars_ten_toDigits
  have hne : Nat.toDigits 10 n ≠ [] := Nat.toDigits_ne_nil
  unfold parseUnsigned
  rw [toList_toString]
  generalize Nat.toDigits 10 n = digits at hall hvalue hne
  split
  · exact absurd rfl hne
  · exact absurd (hall '+' List.mem_cons_self) (by decide)
  · exact absurd (hall '+' List.mem_cons_self) (by decide)
  · exact (parseDigits_eq_ok (Nat.zero_le _)).mpr ⟨hall, hvalue, h⟩

/-! Tags of an event. -/

theorem mem_tagValues {tags : List (List String)} {key value : String} :
    value ∈ tagValues tags key ↔
      value ≠ "" ∧ ∃ values ∈ tags, values.head? = some key ∧ values[1]?.map trim = some value := by
  unfold tagValues
  rw [List.mem_filter, List.mem_filterMap]
  constructor
  · rintro ⟨⟨values, hmem, hvalue⟩, hne⟩
    split at hvalue
    · cases hvalue
    · exact ⟨by simpa using hne, values, hmem, not_not.mp ‹_›, hvalue⟩
  · rintro ⟨hne, values, hmem, hkey, hvalue⟩
    exact ⟨⟨values, hmem, by rw [if_neg (not_not.mpr hkey)]; exact hvalue⟩, by simpa using hne⟩

private theorem head?_of_forall_eq {α : Type} {items : List α} {a : α} (hmem : a ∈ items)
    (h : ∀ b ∈ items, b = a) : items.head? = some a := by
  cases items with
  | nil => cases hmem
  | cons b rest => rw [List.head?_cons, h b List.mem_cons_self]

/-- The one tag under a key gives its value, trimmed. -/
theorem tagValues_head?_of_only {tags : List (List String)} {key value : String}
    (hmem : [key, value] ∈ tags)
    (honly : ∀ values ∈ tags, values.head? = some key → values = [key, value])
    (hne : trim value ≠ "") : (tagValues tags key).head? = some (trim value) := by
  apply head?_of_forall_eq
  · exact mem_tagValues.mpr ⟨hne, _, hmem, rfl, rfl⟩
  · intro found hfound
    obtain ⟨-, values, hvalues, hkey, hvalue⟩ := mem_tagValues.mp hfound
    rw [honly values hvalues hkey] at hvalue
    exact (Option.some.inj hvalue).symm

/-- Without a value under a key, nothing is found. -/
theorem tagValues_head?_of_blank {tags : List (List String)} {key : String}
    (hblank : ∀ values ∈ tags, values.head? = some key →
      ∀ value, values[1]? = some value → trim value = "") :
    (tagValues tags key).head? = none := by
  rw [List.head?_eq_none_iff, List.eq_nil_iff_forall_not_mem]
  intro found hfound
  obtain ⟨hne, values, hvalues, hkey, hfound⟩ := mem_tagValues.mp hfound
  obtain ⟨value, hvalue, rfl⟩ := Option.map_eq_some_iff.mp hfound
  exact hne (hblank values hvalues hkey value hvalue)

private theorem filterMap_eq_singleton {α β : Type} {items : List α} {f : α → Option β} {a : α}
    {b : β} (hnodup : items.Nodup) (hmem : a ∈ items) (ha : f a = some b)
    (hother : ∀ x ∈ items, x ≠ a → f x = none) : items.filterMap f = [b] := by
  induction items with
  | nil => cases hmem
  | cons x rest ih =>
      obtain ⟨hx, hrest⟩ := List.nodup_cons.mp hnodup
      by_cases hxa : x = a
      · subst hxa
        rw [List.filterMap_cons_some ha, List.cons.injEq, List.filterMap_eq_nil_iff]
        refine ⟨rfl, fun y hy => hother y (List.mem_cons_of_mem _ hy) ?_⟩
        rintro rfl
        exact hx hy
      · rw [List.filterMap_cons_none (hother x List.mem_cons_self hxa)]
        exact ih hrest ((List.mem_cons.mp hmem).resolve_left (Ne.symm hxa))
          (fun y hy => hother y (List.mem_cons_of_mem _ hy))

section

variable {K T : Type} [LinearOrder K] [Primitives K T] [WirePrimitives K T]

/-! What is written and read of one event. -/

omit [LinearOrder K] [Primitives K T] in
theorem tag_eq (hlaws : WireLaws K) (key : String) (rest : List String) :
    tag K (key :: rest) = .ok (key :: rest) := by
  rw [tag, hlaws.parseTag]
  rfl

omit [LinearOrder K] [Primitives K T] in
theorem optionalTag_eq (hlaws : WireLaws K) (key : String) (value : Option Nat) :
    optionalTag K key value = .ok (value.toList.map (fun value => [key, toString value])) := by
  cases value with
  | none => rfl
  | some value =>
      rw [optionalTag, Option.toList_some, List.mapM_cons, tag_eq hlaws]
      rfl

omit [LinearOrder K] [Primitives K T] in
private theorem mapM_tag_eq (hlaws : WireLaws K) {tags : List (List String)}
    (hne : ∀ values ∈ tags, values ≠ []) : tags.mapM (tag K) = .ok tags := by
  induction tags with
  | nil => rfl
  | cons values rest ih =>
      obtain ⟨key, others, rfl⟩ := List.exists_cons_of_ne_nil (hne values List.mem_cons_self)
      rw [List.mapM_cons, tag_eq hlaws, ih (fun v hv => hne v (List.mem_cons_of_mem _ hv))]
      rfl

/-- An event that was written is read with its kind, tags and content. -/
theorem decodeVerifiedUnsignedEvent_encode (hlaws : WireLaws K)
    {context : GroupPayloadEncodeContext K} {kind : Nat} {content payload : T}
    {tags : List (List String)} (h : encodeEvent context kind content tags = .ok payload) :
    ∃ event : UnsignedEvent K T, decodeVerifiedUnsignedEvent payload = .ok (some event) ∧
      event.kind = kind ∧ event.tags = tags ∧ event.content = content := by
  unfold encodeEvent at h
  obtain ⟨pubkey, -, hwrite⟩ := except_bind_eq_ok.mp h
  rw [mapError_eq_ok] at hwrite
  refine ⟨UnsignedEvent.ensureId ⟨none, pubkey, context.createdAt, kind, tags, content⟩, ?_, rfl,
    rfl, rfl⟩
  unfold decodeVerifiedUnsignedEvent
  rw [hlaws.event _ _ hwrite]
  simp only [UnsignedEvent.verifyId, except_bind_eq_ok, ensure_eq_ok, decide_eq_true_eq]
  exact ⟨(), rfl, rfl⟩

variable [EventPrimitives K] [DecidableEq T]

omit [Primitives K T] in
/-- An event is decoded by the decoder of its kind. -/
theorem decodePairwiseCommand_of_event {payload : T} {event : UnsignedEvent K T}
    (hread : decodeVerifiedUnsignedEvent payload = .ok (some event)) :
    (event.kind = GROUP_ROSTER_FACT_KIND → isGroupRosterFactEvent event = true →
      ∀ snapshot, groupRosterSnapshotFromUnsignedEvent event = .ok snapshot →
        decodePairwiseCommand payload = .ok (some (.metadataSnapshot snapshot))) ∧
    (event.kind = GROUP_SENDER_KEY_DISTRIBUTION_KIND →
      ∀ command, distributionFromEvent event = .ok (some command) →
        decodePairwiseCommand payload = .ok (some command)) ∧
    (event.kind = GROUP_SENDER_KEY_REPAIR_REQUEST_KIND →
      ∀ command, repairRequestFromEvent event = .ok (some command) →
        decodePairwiseCommand payload = .ok (some command)) := by
  refine ⟨?_, ?_, ?_⟩
  · intro hkind hfact snapshot hsnapshot
    have hmaster : decodeMasterMetadataSnapshot payload =
        .ok (some (.metadataSnapshot snapshot : GroupPairwiseCommand K T)) := by
      rw [decodeMasterMetadataSnapshot, hread]
      change (if event.kind ≠ GROUP_ROSTER_FACT_KIND ∨ _ then _ else _) = _
      rw [if_neg (by simp [hkind, hfact]), hsnapshot]
      rfl
    rw [decodePairwiseCommand, hmaster]
    rfl
  · intro hkind command hcommand
    have hmaster : decodeMasterMetadataSnapshot (K := K) payload = .ok none := by
      rw [decodeMasterMetadataSnapshot, hread]
      change (if event.kind ≠ GROUP_ROSTER_FACT_KIND ∨ _ then _ else _) = _
      rw [if_pos (Or.inl (by rw [hkind]; decide))]
      rfl
    have hdistribution : decodeSenderKeyDistribution payload = .ok (some command) := by
      rw [decodeSenderKeyDistribution, hread]
      change (if event.kind ≠ GROUP_SENDER_KEY_DISTRIBUTION_KIND then _ else _) = _
      rw [if_neg (not_not.mpr hkind), hcommand]
    rw [decodePairwiseCommand, hmaster]
    change (decodeSenderKeyDistribution payload >>= _) = _
    rw [hdistribution]
    rfl
  · intro hkind command hcommand
    have hmaster : decodeMasterMetadataSnapshot (K := K) payload = .ok none := by
      rw [decodeMasterMetadataSnapshot, hread]
      change (if event.kind ≠ GROUP_ROSTER_FACT_KIND ∨ _ then _ else _) = _
      rw [if_pos (Or.inl (by rw [hkind]; decide))]
      rfl
    have hdistribution : decodeSenderKeyDistribution (K := K) payload = .ok none := by
      rw [decodeSenderKeyDistribution, hread]
      change (if event.kind ≠ GROUP_SENDER_KEY_DISTRIBUTION_KIND then _ else _) = _
      rw [if_pos (by rw [hkind]; decide)]
      rfl
    have hrepair : decodeSenderKeyRepairRequest payload = .ok (some command) := by
      rw [decodeSenderKeyRepairRequest, hread]
      change (if event.kind ≠ GROUP_SENDER_KEY_REPAIR_REQUEST_KIND then _ else _) = _
      rw [if_neg (not_not.mpr hkind), hcommand]
    rw [decodePairwiseCommand, hmaster]
    change (decodeSenderKeyDistribution payload >>= _) = _
    rw [hdistribution]
    change (decodeSenderKeyRepairRequest payload >>= _) = _
    rw [hrepair]
    rfl

/-! Messages, distributions and repair requests. -/

omit [Primitives K T] in
theorem decode_groupMessage (hlaws : WireLaws K) {groupId : String} {revision : Nat}
    {body payload : T}
    (h : encodeEnvelope (K := K) (.groupMessage groupId revision body) = .ok payload) :
    decodePairwiseCommand (K := K) payload = .ok (some (.groupMessage groupId revision body)) := by
  rw [encodeEnvelope, mapError_eq_ok] at h
  obtain ⟨henvelope, error, hevent⟩ := hlaws.envelope _ _ h
  have hnone : decodeVerifiedUnsignedEvent (K := K) payload = .ok none := by
    rw [decodeVerifiedUnsignedEvent, hevent]
  have hmaster : decodeMasterMetadataSnapshot (K := K) payload = .ok none := by
    rw [decodeMasterMetadataSnapshot, hnone]
    rfl
  have hdistribution : decodeSenderKeyDistribution (K := K) payload = .ok none := by
    rw [decodeSenderKeyDistribution, hnone]
    rfl
  have hrepair : decodeSenderKeyRepairRequest (K := K) payload = .ok none := by
    rw [decodeSenderKeyRepairRequest, hnone]
    rfl
  rw [decodePairwiseCommand, hmaster]
  change (decodeSenderKeyDistribution payload >>= _) = _
  rw [hdistribution]
  change (decodeSenderKeyRepairRequest payload >>= _) = _
  rw [hrepair]
  change decodeEnvelope payload = _
  rw [decodeEnvelope, henvelope]
  rfl

omit [LinearOrder K] [WirePrimitives K T] [DecidableEq T] in
private theorem parseBytesHex_toHex {key : K} (hkey : HexRoundTrip key) (message : String) :
    parseBytesHex K (Primitives.toHex key) message = .ok key := by
  rw [parseBytesHex, hkey.decode]

omit [LinearOrder K] [WirePrimitives K T] [DecidableEq T] in
private theorem parseDevicePubkeyHex_toHex {device : DevicePubkey K}
    (hkey : HexRoundTrip device.bytes) :
    parseDevicePubkeyHex (Primitives.toHex device.bytes) = .ok device := by
  rw [parseDevicePubkeyHex, parseBytesHex_toHex hkey]
  rfl

omit [LinearOrder K] [WirePrimitives K T] [DecidableEq T] in
private theorem parseOwnerPubkeyHex_toHex {owner : OwnerPubkey K}
    (hkey : HexRoundTrip owner.bytes) :
    parseOwnerPubkeyHex (Primitives.toHex owner.bytes) = .ok owner := by
  rw [parseOwnerPubkeyHex, parseBytesHex_toHex hkey]
  rfl

theorem decode_senderKeyDistribution (hlaws : WireLaws K)
    {context : GroupPayloadEncodeContext K} {distribution : SenderKeyDistribution K} {payload : T}
    (hgroup : distribution.groupId ≠ "") (hkeyId : distribution.keyId ≤ u32Max)
    (hchain : HexRoundTrip distribution.chainKey)
    (hsender : HexRoundTrip distribution.senderEventPubkey.bytes)
    (h : encodeSenderKeyDistribution context distribution = .ok payload) :
    decodePairwiseCommand payload = .ok (some (.senderKeyDistribution distribution)) := by
  unfold encodeSenderKeyDistribution at h
  simp only [except_bind_eq_ok, mapError_eq_ok, tag_eq hlaws, Except.ok.injEq,
    exists_eq_left'] at h
  obtain ⟨content, hcontent, hwrite⟩ := h
  obtain ⟨event, hread, hkind, htags, htext⟩ := decodeVerifiedUnsignedEvent_encode hlaws hwrite
  refine (decodePairwiseCommand_of_event hread).2.1 hkind _ ?_
  have hlabel : firstTagValue event GROUP_LABEL_TAG = some distribution.groupId := by
    rw [firstTagValue, htags]
    rfl
  have hkey : firstTagValue event KEY_TAG = some (toString distribution.keyId) := by
    rw [firstTagValue, htags]
    rfl
  have hcheck : checkKeyTag event distribution.keyId = .ok () := by
    rw [checkKeyTag, hkey]
    dsimp only
    rw [parseUnsigned_toString hkeyId]
    exact ensure_eq_ok.mpr (decide_eq_true rfl)
  unfold distributionFromEvent
  rw [htext, hlaws.distribution _ _ hcontent]
  simp only [except_bind_eq_ok, mapError_eq_ok, Except.ok.injEq, exists_eq_left']
  rw [if_neg hgroup]
  simp only [except_bind_eq_ok, ensure_eq_ok, hlabel, Option.all_some, decide_true, hcheck,
    parseBytesHex_toHex hchain, parseDevicePubkeyHex_toHex hsender]
  exact ⟨(), trivial, (), trivial, _, rfl, _, rfl, rfl⟩

omit [LinearOrder K] [Primitives K T] [WirePrimitives K T] [EventPrimitives K]
  [DecidableEq T] in
private theorem requireOptionalTag_eq {max : Nat} {event : UnsignedEvent K T} {key : String}
    {expected : Option Nat} (hmax : ∀ number ∈ expected, number ≤ max)
    (hvalue : firstTagValue event key = expected.map toString) :
    requireOptionalTag max event key expected = .ok () := by
  cases expected with
  | none =>
      rw [requireOptionalTag, hvalue]
      exact ensure_eq_ok.mpr rfl
  | some number =>
      rw [requireOptionalTag, requireTagNumber, hvalue, Option.map_some]
      dsimp only
      rw [parseUnsigned_toString (hmax number rfl)]
      exact ensure_eq_ok.mpr (decide_eq_true rfl)

theorem decode_senderKeyRepairRequest (hlaws : WireLaws K)
    {context : GroupPayloadEncodeContext K} {request : SenderKeyRepairRequest K} {payload : T}
    (hgroup : request.groupId ≠ "") (hkeyId : ∀ keyId ∈ request.keyId, keyId ≤ u32Max)
    (hnumber : ∀ number ∈ request.messageNumber, number ≤ u32Max)
    (hrevision : ∀ revision ∈ request.requiredRevision, revision ≤ u64Max)
    (hsender : HexRoundTrip request.senderEventPubkey.bytes)
    (h : encodeSenderKeyRepairRequest context request = .ok payload) :
    decodePairwiseCommand payload = .ok (some (.senderKeyRepairRequest request)) := by
  unfold encodeSenderKeyRepairRequest at h
  simp only [except_bind_eq_ok, mapError_eq_ok, tag_eq hlaws, optionalTag_eq hlaws,
    Except.ok.injEq, exists_eq_left'] at h
  obtain ⟨content, hcontent, hwrite⟩ := h
  obtain ⟨event, hread, hkind, htags, htext⟩ := decodeVerifiedUnsignedEvent_encode hlaws hwrite
  refine (decodePairwiseCommand_of_event hread).2.2 hkind _ ?_
  have hlabel : requireTagString event GROUP_LABEL_TAG request.groupId = .ok () := by
    rw [requireTagString, firstTagValue, htags]
    exact ensure_eq_ok.mpr (decide_eq_true rfl)
  have hsenderTag : requireTagString event SENDER_TAG
      (Primitives.toHex request.senderEventPubkey.bytes) = .ok () := by
    rw [requireTagString, firstTagValue, htags]
    exact ensure_eq_ok.mpr (decide_eq_true rfl)
  have hkey : requireOptionalTag u32Max event KEY_TAG request.keyId = .ok () := by
    apply requireOptionalTag_eq hkeyId
    rw [firstTagValue, htags]
    cases request.keyId <;> cases request.messageNumber <;> cases request.requiredRevision <;> rfl
  have hmessage : requireOptionalTag u32Max event MESSAGE_TAG request.messageNumber = .ok () := by
    apply requireOptionalTag_eq hnumber
    rw [firstTagValue, htags]
    cases request.keyId <;> cases request.messageNumber <;> cases request.requiredRevision <;> rfl
  have hrevisionTag : requireOptionalTag u64Max event REVISION_TAG request.requiredRevision =
      .ok () := by
    apply requireOptionalTag_eq hrevision
    rw [firstTagValue, htags]
    cases request.keyId <;> cases request.messageNumber <;> cases request.requiredRevision <;> rfl
  unfold repairRequestFromEvent
  rw [htext, hlaws.repairRequest _ _ hcontent]
  simp only [except_bind_eq_ok, mapError_eq_ok, Except.ok.injEq, exists_eq_left']
  rw [if_neg hgroup]
  simp only [except_bind_eq_ok, hlabel, hsenderTag, hkey, hmessage, hrevisionTag,
    parseDevicePubkeyHex_toHex hsender]
  exact ⟨(), trivial, (), trivial, (), trivial, (), trivial, (), trivial, _, rfl, rfl⟩

/-! Group records. -/

/-- What a snapshot is after it has been written and read: its texts are trimmed, and an
empty one is absent. -/
def normalizedSnapshot (snapshot : GroupSnapshot K) : GroupSnapshot K :=
  { snapshot with
    groupId := trim snapshot.groupId
    name := trim snapshot.name
    picture := (snapshot.picture.map trim).filter (· ≠ "")
    about := (snapshot.about.map trim).filter (· ≠ "")
    members := canonicalOwnerPubkeys snapshot.members
    admins := canonicalOwnerPubkeys snapshot.admins }

section

variable {snapshot : GroupSnapshot K} {groupId name protocol : String}
  {members admins : List (OwnerPubkey K)}

/-- The tags of a roster event that have a key of their own. -/
def rosterFields (snapshot : GroupSnapshot K) (groupId name protocol : String) :
    List (String × String) :=
  [("d", groupId),
    ("type", GROUP_ROSTER_FACT_TYPE),
    ("schema", toString GROUP_ROSTER_FACT_SCHEMA),
    ("group_id", groupId),
    ("revision", toString snapshot.revision),
    ("name", name),
    ("created_at", toString snapshot.createdAt),
    ("updated_at", toString snapshot.updatedAt),
    ("created_by", Primitives.toHex snapshot.createdBy.bytes),
    ("protocol", protocol)] ++
  (snapshot.about.filter (· ≠ "")).toList.map (fun about => ("about", about)) ++
  (snapshot.picture.filter (· ≠ "")).toList.map (fun picture => ("picture", picture))

omit [LinearOrder K] [WirePrimitives K T] [EventPrimitives K] [DecidableEq T] in
theorem mem_rosterTags {values : List String} :
    values ∈ rosterTags snapshot groupId name protocol members admins ↔
      (∃ field ∈ rosterFields snapshot groupId name protocol, values = [field.1, field.2]) ∨
        values = ["i", groupId, "subject"] ∨
        (∃ member ∈ members, values = ["member", Primitives.toHex member.bytes]) ∨
        ∃ admin ∈ admins, values = ["admin", Primitives.toHex admin.bytes] := by
  have hsplit : rosterTags snapshot groupId name protocol members admins =
      ["d", groupId] :: ["i", groupId, "subject"] ::
        ((rosterFields snapshot groupId name protocol).tail.map (fun field => [field.1, field.2]) ++
          (members.map (fun member => ["member", Primitives.toHex member.bytes]) ++
          admins.map (fun admin => ["admin", Primitives.toHex admin.bytes]))) := by
    simp [rosterTags, rosterFields, Function.comp_def]
  have hfields : rosterFields snapshot groupId name protocol =
      ("d", groupId) :: (rosterFields snapshot groupId name protocol).tail := rfl
  rw [hsplit, hfields]
  generalize (rosterFields snapshot groupId name protocol).tail = rest
  simp only [List.mem_cons, List.mem_append, List.mem_map, exists_eq_or_imp, List.tail_cons,
    eq_comm (a := values), or_assoc]
  exact or_congr Iff.rfl or_left_comm

omit [LinearOrder K] [WirePrimitives K T] [EventPrimitives K] [DecidableEq T] in
theorem nodup_rosterFields :
    ((rosterFields snapshot groupId name protocol).map Prod.fst).Nodup := by
  unfold rosterFields
  simp only [List.map_append, List.map_map, List.map_cons, List.map_nil]
  cases snapshot.about.filter (· ≠ "") <;> cases snapshot.picture.filter (· ≠ "") <;>
    simp

omit [LinearOrder K] [WirePrimitives K T] [EventPrimitives K] [DecidableEq T] in
theorem rosterFields_key {field : String × String}
    (h : field ∈ rosterFields snapshot groupId name protocol) :
    field.1 ≠ "i" ∧ field.1 ≠ "member" ∧ field.1 ≠ "admin" := by
  unfold rosterFields at h
  simp only [List.mem_append, List.mem_cons, List.mem_map, List.not_mem_nil, or_false] at h
  rcases h with ((rfl | rfl | rfl | rfl | rfl | rfl | rfl | rfl | rfl | rfl) | ⟨_, _, rfl⟩) |
    ⟨_, _, rfl⟩ <;> simp

omit [LinearOrder K] [WirePrimitives K T] [EventPrimitives K] [DecidableEq T] in
/-- The key of a field belongs to its tag alone. -/
theorem rosterTags_only {key value : String}
    (hfield : (key, value) ∈ rosterFields snapshot groupId name protocol) :
    ∀ values ∈ rosterTags snapshot groupId name protocol members admins,
      values.head? = some key → values = [key, value] := by
  intro values hmem hhead
  obtain ⟨hi, hmember, hadmin⟩ := rosterFields_key hfield
  rcases mem_rosterTags.mp hmem with ⟨field, hother, rfl⟩ | rfl | ⟨_, _, rfl⟩ | ⟨_, _, rfl⟩
  · have hsame := List.inj_on_of_nodup_map nodup_rosterFields hother hfield
      (Option.some.inj hhead)
    rw [hsame]
  · exact absurd (Option.some.inj hhead).symm hi
  · exact absurd (Option.some.inj hhead).symm hmember
  · exact absurd (Option.some.inj hhead).symm hadmin

omit [LinearOrder K] [WirePrimitives K T] [EventPrimitives K] [DecidableEq T] in
private theorem mem_rosterTags_member {values : List String}
    (hhead : values.head? = some "member") :
    values ∈ rosterTags snapshot groupId name protocol members admins ↔
      ∃ member ∈ members, values = ["member", Primitives.toHex member.bytes] := by
  rw [mem_rosterTags]
  constructor
  · rintro (⟨field, hfield, rfl⟩ | rfl | hmember | ⟨_, _, rfl⟩)
    · exact absurd (Option.some.inj hhead) (rosterFields_key hfield).2.1
    · exact absurd (Option.some.inj hhead) (by decide)
    · exact hmember
    · exact absurd (Option.some.inj hhead) (by decide)
  · intro hmember
    exact Or.inr (Or.inr (Or.inl hmember))

omit [LinearOrder K] [WirePrimitives K T] [EventPrimitives K] [DecidableEq T] in
private theorem mem_rosterTags_admin {values : List String}
    (hhead : values.head? = some "admin") :
    values ∈ rosterTags snapshot groupId name protocol members admins ↔
      ∃ admin ∈ admins, values = ["admin", Primitives.toHex admin.bytes] := by
  rw [mem_rosterTags]
  constructor
  · rintro (⟨field, hfield, rfl⟩ | rfl | ⟨_, _, rfl⟩ | hadmin)
    · exact absurd (Option.some.inj hhead) (rosterFields_key hfield).2.2
    · exact absurd (Option.some.inj hhead) (by decide)
    · exact absurd (Option.some.inj hhead) (by decide)
    · exact hadmin
  · intro hadmin
    exact Or.inr (Or.inr (Or.inr hadmin))

omit [LinearOrder K] [WirePrimitives K T] [EventPrimitives K] [DecidableEq T] in
private theorem mem_canonical {values : List String} :
    values ∈ canonicalizeRawTags (rosterTags snapshot groupId name protocol members admins) ↔
      values ∈ rosterTags snapshot groupId name protocol members admins := by
  rw [canonicalizeRawTags, SortedSet.mem_toList, SortedSet.mem_ofList]

omit [LinearOrder K] [WirePrimitives K T] [EventPrimitives K] [DecidableEq T] in
theorem tagValues_field {key : String} (value : String)
    (hfield : (key, value) ∈ rosterFields snapshot groupId name protocol)
    (hne : trim value ≠ "") :
    (tagValues (canonicalizeRawTags
      (rosterTags snapshot groupId name protocol members admins)) key).head? =
        some (trim value) := by
  apply tagValues_head?_of_only
  · exact mem_canonical.mpr (mem_rosterTags.mpr (Or.inl ⟨(key, value), hfield, rfl⟩))
  · intro values hmem
    exact rosterTags_only hfield values (mem_canonical.mp hmem)
  · exact hne

omit [LinearOrder K] [WirePrimitives K T] [EventPrimitives K] [DecidableEq T] in
/-- An optional text is found when more than blanks is left of it. -/
theorem tagValues_optional {key : String} (text : Option String)
    (hfields : ∀ value, (key, value) ∈ rosterFields snapshot groupId name protocol ↔
      text.filter (· ≠ "") = some value)
    (hkey : key ≠ "i" ∧ key ≠ "member" ∧ key ≠ "admin") :
    (tagValues (canonicalizeRawTags
      (rosterTags snapshot groupId name protocol members admins)) key).head? =
        (text.map trim).filter (· ≠ "") := by
  by_cases hvalue : ∃ value, text.filter (· ≠ "") = some value ∧ trim value ≠ ""
  · obtain ⟨value, htext, hne⟩ := hvalue
    rw [tagValues_field value ((hfields value).mpr htext) hne]
    obtain ⟨rfl, -⟩ := Option.filter_eq_some_iff.mp htext
    rw [Option.map_some, Option.filter_some, if_pos (decide_eq_true hne)]
  · have hblank : ∀ value ∈ text, trim value = "" := by
      rintro value rfl
      by_contra hne
      have hempty : value ≠ "" := by
        rintro rfl
        exact hne rfl
      exact hvalue ⟨value, by rw [Option.filter_some, if_pos (decide_eq_true hempty)], hne⟩
    have hnone : (text.map trim).filter (· ≠ "") = none := by
      cases text with
      | none => rfl
      | some value => rw [Option.map_some, hblank value rfl]; rfl
    rw [hnone]
    apply tagValues_head?_of_blank
    intro values hmem hhead value hget
    rcases mem_rosterTags.mp (mem_canonical.mp hmem) with
      ⟨field, hfield, rfl⟩ | rfl | ⟨_, _, rfl⟩ | ⟨_, _, rfl⟩
    · obtain rfl := Option.some.inj hhead
      obtain rfl := Option.some.inj hget
      exact hblank _ (Option.filter_eq_some_iff.mp ((hfields _).mp hfield)).1
    · exact absurd (Option.some.inj hhead).symm hkey.1
    · exact absurd (Option.some.inj hhead).symm hkey.2.1
    · exact absurd (Option.some.inj hhead).symm hkey.2.2

omit [LinearOrder K] [WirePrimitives K T] [DecidableEq T] in
/-- The keys read from their hexadecimal texts. -/
private theorem mapM_parseOwnerPubkeyHex {owners : List (OwnerPubkey K)}
    (howners : ∀ owner ∈ owners, HexRoundTrip owner.bytes) {texts : List String}
    (htexts : ∀ text ∈ texts, ∃ owner ∈ owners, text = Primitives.toHex owner.bytes) :
    ∃ found, texts.mapM (parseOwnerPubkeyHex (K := K)) = .ok found ∧
      ∀ owner, owner ∈ found ↔ owner ∈ owners ∧ Primitives.toHex owner.bytes ∈ texts := by
  induction texts with
  | nil => exact ⟨[], rfl, by simp⟩
  | cons text rest ih =>
      obtain ⟨owner, howner, rfl⟩ := htexts text List.mem_cons_self
      obtain ⟨found, hfound, hmem⟩ := ih (fun text h => htexts text (List.mem_cons_of_mem _ h))
      refine ⟨owner :: found, ?_, ?_⟩
      · rw [List.mapM_cons, parseOwnerPubkeyHex_toHex (howners owner howner), hfound]
        rfl
      · intro other
        rw [List.mem_cons, List.mem_cons, hmem]
        constructor
        · rintro (rfl | ⟨hother, hrest⟩)
          · exact ⟨howner, Or.inl rfl⟩
          · exact ⟨hother, Or.inr hrest⟩
        · rintro ⟨hother, hsame | hrest⟩
          · have hdecode := (howners other hother).decode
            rw [hsame, (howners owner howner).decode] at hdecode
            cases other
            cases owner
            cases hdecode
            exact Or.inl rfl
          · exact Or.inr ⟨hother, hrest⟩

omit [WirePrimitives K T] [DecidableEq T] in
/-- The tags under a key that carries owners give those owners back. -/
private theorem ownerPubkeys_eq (event : UnsignedEvent K T) (key : String)
    {owners : List (OwnerPubkey K)} (howners : ∀ owner ∈ owners, HexRoundTrip owner.bytes)
    (htags : ∀ values, values.head? = some key →
      (values ∈ event.tags ↔ ∃ owner ∈ owners, values = [key, Primitives.toHex owner.bytes])) :
    ∃ found, ownerPubkeys event key = .ok found ∧
      canonicalOwnerPubkeys found = canonicalOwnerPubkeys owners := by
  have htexts : ∀ text, text ∈ tagValues event.tags key ↔
      ∃ owner ∈ owners, text = Primitives.toHex owner.bytes := by
    intro text
    rw [mem_tagValues]
    constructor
    · rintro ⟨-, values, hmem, hhead, hvalue⟩
      obtain ⟨owner, howner, rfl⟩ := (htags values hhead).mp hmem
      obtain rfl := Option.some.inj hvalue
      exact ⟨owner, howner, (howners owner howner).trimmed⟩
    · rintro ⟨owner, howner, rfl⟩
      refine ⟨(howners owner howner).ne_empty, [key, Primitives.toHex owner.bytes],
        (htags _ rfl).mpr ⟨owner, howner, rfl⟩, rfl, ?_⟩
      exact congrArg some (howners owner howner).trimmed
  obtain ⟨found, hfound, hmem⟩ :=
    mapM_parseOwnerPubkeyHex howners (fun text h => (htexts text).mp h)
  refine ⟨found, hfound, ?_⟩
  unfold canonicalOwnerPubkeys
  rw [SortedSet.ext_mem (s := SortedSet.ofList found) (t := SortedSet.ofList owners)]
  intro owner
  rw [SortedSet.mem_ofList, SortedSet.mem_ofList, hmem]
  exact ⟨fun h => h.1, fun h => ⟨h, (htexts _).mpr ⟨owner, h, rfl⟩⟩⟩

omit [LinearOrder K] [WirePrimitives K T] [EventPrimitives K] [DecidableEq T] in
/-- The one subject of a roster event is the group. -/
theorem groupIdFromTags_roster (hgroup : Trimmed groupId) (hne : groupId ≠ "") :
    groupIdFromTags (canonicalizeRawTags
      (rosterTags snapshot groupId name protocol members admins)) = .ok groupId := by
  have hsubjects : (canonicalizeRawTags
      (rosterTags snapshot groupId name protocol members admins)).filterMap (fun values =>
        if values.head? = some "i" ∧ values[2]? = some "subject" then values[1]?.map trim
        else none) = [groupId] := by
    apply filterMap_eq_singleton (SortedSet.nodup_toList _)
      (mem_canonical.mpr (mem_rosterTags.mpr (Or.inr (Or.inl rfl))))
    · exact congrArg some hgroup
    · intro values hmem hother
      rw [if_neg]
      rintro ⟨hhead, -⟩
      rcases mem_rosterTags.mp (mem_canonical.mp hmem) with
        ⟨field, hfield, rfl⟩ | rfl | ⟨_, _, rfl⟩ | ⟨_, _, rfl⟩
      · exact (rosterFields_key hfield).1 (Option.some.inj hhead)
      · exact hother rfl
      · exact absurd (Option.some.inj hhead) (by decide)
      · exact absurd (Option.some.inj hhead) (by decide)
  have hd : (tagValues (canonicalizeRawTags
      (rosterTags snapshot groupId name protocol members admins)) "d").head? = some groupId := by
    have hfield : ("d", groupId) ∈ rosterFields snapshot groupId name protocol :=
      List.mem_cons_self
    rw [tagValues_field groupId hfield (by rw [hgroup]; exact hne), hgroup]
  unfold groupIdFromTags
  rw [hsubjects]
  dsimp only
  rw [List.filter_cons_of_pos (by simpa using hne), List.filter_nil]
  dsimp only
  rw [hd]
  dsimp only
  rw [if_neg (not_not.mpr rfl)]

theorem groupProtocolToTag_eq_ok {protocol : GroupProtocol} {text : String}
    (h : groupProtocolToTag protocol = .ok text) :
    Trimmed text ∧ text ≠ "" ∧ groupProtocolFromTag text = .ok protocol := by
  unfold groupProtocolToTag at h
  split at h
  · have hprotocol : protocol = GroupProtocol.pairwiseFanoutV1 := of_decide_eq_true ‹_›
    cases h
    rw [hprotocol]
    exact ⟨by decide, by decide, by decide⟩
  · split at h
    · have hprotocol : protocol = GroupProtocol.senderKeyV1 := of_decide_eq_true ‹_›
      cases h
      rw [hprotocol]
      exact ⟨by decide, by decide, by decide⟩
    · cases h

theorem requireNonEmpty_eq_ok {value label text : String}
    (h : requireNonEmpty value label = .ok text) : text = trim value ∧ text ≠ "" := by
  unfold requireNonEmpty at h
  dsimp only at h
  split at h
  · cases h
  · cases h
    exact ⟨rfl, ‹_›⟩

/-- An event made of the tags of a snapshot. -/
structure RosterEvent (snapshot : GroupSnapshot K) (protocol : String)
    (event : UnsignedEvent K T) : Prop where
  kind : event.kind = GROUP_ROSTER_FACT_KIND
  content : event.content = WirePrimitives.emptyText K
  tags : event.tags = canonicalizeRawTags (rosterTags snapshot (trim snapshot.groupId)
    (trim snapshot.name) protocol (canonicalOwnerPubkeys snapshot.members)
    (canonicalOwnerPubkeys snapshot.admins))

/-- The numbers of a snapshot are `u64`s and its keys have a hexadecimal text. -/
structure SnapshotInRange (snapshot : GroupSnapshot K) : Prop where
  revision : snapshot.revision ≤ u64Max
  createdAt : snapshot.createdAt ≤ u64Max
  updatedAt : snapshot.updatedAt ≤ u64Max
  createdBy : HexRoundTrip snapshot.createdBy.bytes
  members : ∀ member ∈ snapshot.members, HexRoundTrip member.bytes
  admins : ∀ admin ∈ snapshot.admins, HexRoundTrip admin.bytes

section

variable {event : UnsignedEvent K T} (hevent : RosterEvent snapshot protocol event)

include hevent

omit [EventPrimitives K] [DecidableEq T] in
private theorem requiredValue_field {key : String} (value : String)
    (hfield : (key, value) ∈ rosterFields snapshot (trim snapshot.groupId) (trim snapshot.name)
      protocol) (htrim : Trimmed value) (hne : value ≠ "") :
    requiredValue event key = .ok value := by
  rw [requiredValue, hevent.tags, tagValues_field value hfield (by rw [htrim]; exact hne), htrim]

omit [EventPrimitives K] [DecidableEq T] in
private theorem requiredU64_field {key : String} (number : Nat)
    (hfield : (key, toString number) ∈ rosterFields snapshot (trim snapshot.groupId)
      (trim snapshot.name) protocol) (hmax : number ≤ u64Max) :
    requiredU64 event key = .ok number := by
  rw [requiredU64, requiredValue_field hevent _ hfield (trimmed_toString number)
    (toString_ne_empty number)]
  dsimp only [bind, Except.bind]
  rw [parseUnsigned_toString hmax]

omit [EventPrimitives K] [DecidableEq T] in
private theorem isGroupRosterFactEvent_roster : isGroupRosterFactEvent event = true := by
  have hfield : ("type", GROUP_ROSTER_FACT_TYPE) ∈ rosterFields snapshot
      (trim snapshot.groupId) (trim snapshot.name) protocol := by simp [rosterFields]
  have hhead : (tagValues event.tags "type").head? = some (trim GROUP_ROSTER_FACT_TYPE) := by
    rw [hevent.tags]
    exact tagValues_field _ hfield (by decide)
  unfold isGroupRosterFactEvent
  rw [Bool.and_eq_true, decide_eq_true_eq, List.any_eq_true]
  exact ⟨hevent.kind, _, List.mem_of_mem_head? hhead, by decide⟩

theorem groupRosterSnapshot_roster (hprotocol : groupProtocolToTag snapshot.protocol = .ok protocol)
    (hgroup : trim snapshot.groupId ≠ "") (hname : trim snapshot.name ≠ "")
    (hadmins : requireAdminsAreMembers (canonicalOwnerPubkeys snapshot.admins)
      (canonicalOwnerPubkeys snapshot.members) = .ok ())
    (hrange : SnapshotInRange snapshot) :
    groupRosterSnapshotFromUnsignedEvent event = .ok (normalizedSnapshot snapshot) := by
  obtain ⟨hprotocolTrim, hprotocolNe, hprotocolFrom⟩ := groupProtocolToTag_eq_ok hprotocol
  have hcanonical : ∀ owners : List (OwnerPubkey K),
      (∀ owner ∈ owners, HexRoundTrip owner.bytes) →
        ∀ owner ∈ canonicalOwnerPubkeys owners, HexRoundTrip owner.bytes := by
    intro owners howners owner hmem
    rw [canonicalOwnerPubkeys, SortedSet.mem_toList, SortedSet.mem_ofList] at hmem
    exact howners owner hmem
  obtain ⟨members, hmembers, hmembersEq⟩ := ownerPubkeys_eq event "member"
    (hcanonical _ hrange.members) (fun values hhead => by
      rw [hevent.tags, mem_canonical, mem_rosterTags_member hhead])
  obtain ⟨admins, hadminsRead, hadminsEq⟩ := ownerPubkeys_eq event "admin"
    (hcanonical _ hrange.admins) (fun values hhead => by
      rw [hevent.tags, mem_canonical, mem_rosterTags_admin hhead])
  have hidem : ∀ owners : List (OwnerPubkey K),
      canonicalOwnerPubkeys (canonicalOwnerPubkeys owners) = canonicalOwnerPubkeys owners := by
    intro owners
    rw [canonicalOwnerPubkeys, canonicalOwnerPubkeys, SortedSet.ofList_toList]
  rw [hidem] at hmembersEq hadminsEq
  have hgroupId : groupIdFromTags event.tags = .ok (trim snapshot.groupId) := by
    rw [hevent.tags]
    exact groupIdFromTags_roster (trimmed_trim snapshot.groupId) hgroup
  have hgroupTag : (tagValues event.tags "group_id").head? = some (trim snapshot.groupId) := by
    rw [hevent.tags, tagValues_field (trim snapshot.groupId) (by simp [rosterFields])
      (by rw [trimmed_trim]; exact hgroup), trimmed_trim]
  have hprotocolRead : rosterProtocol event = .ok snapshot.protocol := by
    rw [rosterProtocol, hevent.tags, tagValues_field protocol (by simp [rosterFields])
      (by rw [hprotocolTrim]; exact hprotocolNe), hprotocolTrim]
    exact hprotocolFrom
  have hpicture : (tagValues event.tags "picture").head? =
      (snapshot.picture.map trim).filter (· ≠ "") := by
    rw [hevent.tags]
    exact tagValues_optional _ (fun value => by simp [rosterFields]) (by decide)
  have habout : (tagValues event.tags "about").head? =
      (snapshot.about.map trim).filter (· ≠ "") := by
    rw [hevent.tags]
    exact tagValues_optional _ (fun value => by simp [rosterFields]) (by decide)
  have hdescription : (tagValues event.tags "description").head? = none := by
    rw [hevent.tags, tagValues_optional none (fun value => by simp [rosterFields])
      (by decide)]
    rfl
  unfold groupRosterSnapshotFromUnsignedEvent
  rw [isGroupRosterFactEvent_roster hevent, hgroupId, hmembers, hadminsRead, hgroupTag,
    hprotocolRead, hpicture, habout, hdescription,
    requiredU64_field hevent GROUP_ROSTER_FACT_SCHEMA (by simp [rosterFields])
      (by decide),
    requiredU64_field hevent snapshot.revision (by simp [rosterFields])
      hrange.revision,
    requiredU64_field hevent snapshot.createdAt (by simp [rosterFields])
      hrange.createdAt,
    requiredU64_field hevent snapshot.updatedAt (by simp [rosterFields])
      hrange.updatedAt,
    requiredValue_field hevent (trim snapshot.name) (by simp [rosterFields])
      (trimmed_trim _) hname,
    requiredValue_field hevent (Primitives.toHex snapshot.createdBy.bytes)
      (by simp [rosterFields]) hrange.createdBy.trimmed hrange.createdBy.ne_empty]
  simp only [except_bind_eq_ok, ensure_eq_ok, hevent.content, hmembersEq, hadminsEq, hadmins,
    parseOwnerPubkeyHex_toHex hrange.createdBy, Except.ok.injEq, exists_eq_left',
    Option.all_some, decide_true, Option.or_none, exists_const, true_and]
  rfl

end

end

theorem decode_metadataSnapshot (hlaws : WireLaws K) {context : GroupPayloadEncodeContext K}
    {snapshot : GroupSnapshot K} {payload : T} (hrange : SnapshotInRange snapshot)
    (h : encodeMasterMetadataSnapshot context snapshot = .ok payload) :
    decodePairwiseCommand payload = .ok (some (.metadataSnapshot (normalizedSnapshot snapshot))) := by
  unfold encodeMasterMetadataSnapshot groupRosterFactTags at h
  simp only [except_bind_eq_ok] at h
  obtain ⟨tags, ⟨groupId, hgroup, name, hname, _, hadmins, protocol, hprotocol, htags⟩, hwrite⟩ := h
  obtain ⟨rfl, hgroupNe⟩ := requireNonEmpty_eq_ok hgroup
  obtain ⟨rfl, hnameNe⟩ := requireNonEmpty_eq_ok hname
  have hnotNil : ∀ values ∈ canonicalizeRawTags (rosterTags snapshot (trim snapshot.groupId)
      (trim snapshot.name) protocol (canonicalOwnerPubkeys snapshot.members)
      (canonicalOwnerPubkeys snapshot.admins)), values ≠ [] := by
    intro values hmem
    rcases mem_rosterTags.mp (mem_canonical.mp hmem) with
      ⟨field, -, rfl⟩ | rfl | ⟨_, -, rfl⟩ | ⟨_, -, rfl⟩
    all_goals exact List.cons_ne_nil _ _
  rw [mapM_tag_eq hlaws hnotNil] at htags
  cases htags
  obtain ⟨event, hread, hkind, heventTags, hcontent⟩ :=
    decodeVerifiedUnsignedEvent_encode hlaws hwrite
  have hevent : RosterEvent snapshot protocol event := ⟨hkind, hcontent, heventTags⟩
  exact (decodePairwiseCommand_of_event hread).1 hkind (isGroupRosterFactEvent_roster hevent) _
    (groupRosterSnapshot_roster hevent hprotocol hgroupNe hnameNe hadmins hrange)

/-- The commands a manager hands to the codec: the snapshot of a record, a message, and a
distribution or repair request that names a group. Numbers are those of their types. -/
def CommandInRange : GroupPairwiseCommand K T → Prop
  | .metadataSnapshot snapshot =>
      SnapshotInRange snapshot ∧ ∃ record : GroupRecord K, snapshot = record.snapshot
  | .groupMessage _ _ _ => True
  | .senderKeyDistribution distribution =>
      distribution.groupId ≠ "" ∧ distribution.keyId ≤ u32Max ∧
        HexRoundTrip distribution.chainKey ∧ HexRoundTrip distribution.senderEventPubkey.bytes
  | .senderKeyRepairRequest request =>
      request.groupId ≠ "" ∧ (∀ keyId ∈ request.keyId, keyId ≤ u32Max) ∧
        (∀ number ∈ request.messageNumber, number ≤ u32Max) ∧
        (∀ revision ∈ request.requiredRevision, revision ≤ u64Max) ∧
        HexRoundTrip request.senderEventPubkey.bytes

/-- The texts of a group record have no blanks at their ends, and none that is present is
empty. -/
structure PlainTexts (snapshot : GroupSnapshot K) : Prop where
  groupId : Trimmed snapshot.groupId
  name : Trimmed snapshot.name
  picture : ∀ picture ∈ snapshot.picture, Trimmed picture ∧ picture ≠ ""
  about : ∀ about ∈ snapshot.about, Trimmed about ∧ about ≠ ""

def SurvivesWire : GroupPairwiseCommand K T → Prop
  | .metadataSnapshot snapshot => PlainTexts snapshot
  | _ => True

private theorem optional_trim_eq_iff {text : Option String} :
    (text.map trim).filter (· ≠ "") = text ↔ ∀ value ∈ text, Trimmed value ∧ value ≠ "" := by
  cases text with
  | none => simp
  | some value =>
      rw [Option.map_some, Option.filter_some]
      constructor
      · intro h found hfound
        cases hfound
        split at h
        · have htrim : trim value = value := Option.some.inj h
          refine ⟨htrim, ?_⟩
          rw [← htrim]
          exact of_decide_eq_true ‹_›
        · cases h
      · intro h
        obtain ⟨htrim, hne⟩ := h value rfl
        rw [htrim, if_pos (decide_eq_true hne)]

omit [EventPrimitives K] in
theorem normalizedSnapshot_eq_iff (record : GroupRecord K) :
    normalizedSnapshot record.snapshot = record.snapshot ↔ PlainTexts record.snapshot := by
  have hcanonical : ∀ owners : SortedSet (OwnerPubkey K),
      canonicalOwnerPubkeys owners.toList = owners.toList := by
    intro owners
    rw [canonicalOwnerPubkeys, SortedSet.ofList_toList]
  simp only [normalizedSnapshot, GroupRecord.snapshot, hcanonical, GroupSnapshot.mk.injEq, true_and,
    and_true]
  constructor
  · rintro ⟨hgroup, hname, hpicture, habout⟩
    exact ⟨hgroup, hname, optional_trim_eq_iff.mp hpicture, optional_trim_eq_iff.mp habout⟩
  · rintro ⟨hgroup, hname, hpicture, habout⟩
    exact ⟨hgroup, hname, optional_trim_eq_iff.mpr hpicture, optional_trim_eq_iff.mpr habout⟩

theorem decodePairwiseCommand_encode (hlaws : WireLaws K)
    {context : GroupPayloadEncodeContext K} {command : GroupPairwiseCommand K T} {payload : T}
    (hrange : CommandInRange command) (h : encodePairwiseCommand context command = .ok payload) :
    decodePairwiseCommand payload = .ok (some command) ↔ SurvivesWire command := by
  cases command with
  | metadataSnapshot snapshot =>
      obtain ⟨hsnapshot, record, rfl⟩ := hrange
      rw [decode_metadataSnapshot hlaws hsnapshot h]
      change _ ↔ PlainTexts record.snapshot
      rw [← normalizedSnapshot_eq_iff]
      simp only [Except.ok.injEq, Option.some.injEq, GroupPairwiseCommand.metadataSnapshot.injEq]
  | groupMessage groupId revision body =>
      exact iff_of_true (decode_groupMessage hlaws h) trivial
  | senderKeyDistribution distribution =>
      obtain ⟨hgroup, hkey, hchain, hsender⟩ := hrange
      exact iff_of_true (decode_senderKeyDistribution hlaws hgroup hkey hchain hsender h) trivial
  | senderKeyRepairRequest request =>
      obtain ⟨hgroup, hkey, hnumber, hrevision, hsender⟩ := hrange
      exact iff_of_true
        (decode_senderKeyRepairRequest hlaws hgroup hkey hnumber hrevision hsender h) trivial

/-- The record a peer installs from what is written of `record`. -/
def normalizedRecord (record : GroupRecord K) : GroupRecord K :=
  { record with
    groupId := trim record.groupId
    name := trim record.name
    picture := (record.picture.map trim).filter (· ≠ "")
    about := (record.about.map trim).filter (· ≠ "") }

omit [EventPrimitives K] in
private theorem snapshot_normalizedRecord (record : GroupRecord K) :
    (normalizedRecord record).snapshot = normalizedSnapshot record.snapshot := by
  simp only [normalizedSnapshot, normalizedRecord, GroupRecord.snapshot, canonicalOwnerPubkeys,
    SortedSet.ofList_toList]

omit [EventPrimitives K] in
private theorem normalizedRecord_eq_iff (record : GroupRecord K) :
    normalizedRecord record = record ↔ PlainTexts record.snapshot := by
  rw [← normalizedSnapshot_eq_iff, ← snapshot_normalizedRecord]
  constructor
  · intro h
    rw [h]
  · intro h
    simp only [normalizedRecord, GroupRecord.snapshot, GroupSnapshot.mk.injEq] at h ⊢
    obtain ⟨hgroup, -, hname, hpicture, habout, -⟩ := h
    rw [hgroup, hname, hpicture, habout]

private theorem validateSupportedProtocol_of_toTag {protocol : GroupProtocol} {text : String}
    (h : groupProtocolToTag protocol = .ok text) : validateSupportedProtocol protocol = .ok () := by
  unfold groupProtocolToTag at h
  rw [validateSupportedProtocol, ensure_eq_ok, Bool.or_eq_true]
  split at h
  · exact Or.inl ‹_›
  · split at h
    · exact Or.inr ‹_›
    · cases h

theorem installed_of_encode (hlaws : WireLaws K) {context : GroupPayloadEncodeContext K}
    {record : GroupRecord K} {payload : T} (hwell : record.WellFormed)
    (hrange : SnapshotInRange record.snapshot) (hrevision : record.revision ≠ 0)
    (h : encodeMasterMetadataSnapshot context record.snapshot = .ok payload) :
    decodePairwiseCommand payload =
        .ok (some (.metadataSnapshot (normalizedRecord record).snapshot)) ∧
      GroupRecord.fromMetadataSnapshot (normalizedRecord record).snapshot =
        .ok (normalizedRecord record) := by
  refine ⟨?_, ?_⟩
  · rw [snapshot_normalizedRecord]
    exact decode_metadataSnapshot hlaws hrange h
  · unfold encodeMasterMetadataSnapshot groupRosterFactTags at h
    simp only [except_bind_eq_ok] at h
    obtain ⟨_, ⟨_, -, _, -, _, -, protocol, hprotocol, -⟩, -⟩ := h
    exact GroupRecord.fromMetadataSnapshot_snapshot ⟨hwell.members, hwell.admins, hwell.subset⟩
      (validateSupportedProtocol_of_toTag hprotocol) hrevision

/-- A command whose encoding succeeds comes back from decoding exactly when it is no group
record or a record of plain texts; and the record a peer installs from what was written is
the record itself exactly when its texts are plain. -/
theorem decode_encode_eq_iff (hlaws : WireLaws K) (context : GroupPayloadEncodeContext K) :
    (∀ (command : GroupPairwiseCommand K T) (payload : T), CommandInRange command →
      encodePairwiseCommand context command = .ok payload →
        (decodePairwiseCommand payload = .ok (some command) ↔ SurvivesWire command)) ∧
    (∀ (record : GroupRecord K) (payload : T), record.WellFormed →
      SnapshotInRange record.snapshot → record.revision ≠ 0 →
      encodePairwiseCommand context (.metadataSnapshot record.snapshot) = .ok payload →
        ∃ snapshot installed,
          decodePairwiseCommand payload = .ok (some (.metadataSnapshot snapshot)) ∧
          GroupRecord.fromMetadataSnapshot snapshot = .ok installed ∧
          (installed = record ↔ PlainTexts record.snapshot)) := by
  refine ⟨fun command payload hrange h => decodePairwiseCommand_encode hlaws hrange h, ?_⟩
  intro record payload hwell hrange hrevision h
  obtain ⟨hdecode, hinstalled⟩ := installed_of_encode hlaws hwell hrange hrevision h
  exact ⟨_, _, hdecode, hinstalled, normalizedRecord_eq_iff record⟩

end

end GroupWire

namespace Symbolic

open GroupWire

/-- A JSON object that is no event: its key is not a point. -/
def object (label : String) (number : Nat) (key : Nat) (a b : Nat)
    (texts : List (List String)) (body : TextTerm) : TextTerm :=
  .rumor (.expandLabel (.digest "") label number) (.secret key) a b texts body

def optionalNumber : Option Nat → Nat
  | none => 0
  | some n => n + 1

def readOptionalNumber : Nat → Option Nat
  | 0 => none
  | n + 1 => some n

/-- Of the envelopes only those of messages are ever written. -/
instance wirePrimitives : WirePrimitives KeyTerm TextTerm where
  eventId pubkey createdAt kind tags _ :=
    .absorb (.expandByte pubkey createdAt kind) (tagsTerm tags)
  parseTag
    | [] => .error "tag kind missing"
    | tag => .ok tag
  eventToJson event :=
    match event.id, event.pubkey with
    | some id, .point key =>
        .ok (.rumor id (.point key) event.createdAt event.kind event.tags event.content)
    | _, _ => .error "not an event"
  eventFromJson
    | .rumor id (.point key) createdAt kind tags content =>
        .ok ⟨some id, .point key, createdAt, kind, tags, content⟩
    | _ => .error "invalid json"
  envelopeToJson
    | ⟨version, .groupMessage groupId revision body⟩ =>
        .ok (object "group_message" revision version 0 0 [[groupId]] body)
    | _ => .error "not written"
  envelopeFromJson
    | .rumor (.expandLabel (.digest "") "group_message" revision) (.secret version) 0 0 [[groupId]]
        body => .ok ⟨version, .groupMessage groupId revision body⟩
    | _ => .error "invalid json"
  distributionToJson content :=
    .ok (object "distribution" content.keyId 0 content.iteration content.createdAt
      [[content.groupId, content.chainKey, content.senderEventPubkey]] (.bytes ""))
  distributionFromJson
    | .rumor (.expandLabel (.digest "") "distribution" keyId) (.secret 0) iteration createdAt
        [[groupId, chainKey, senderEventPubkey]] (.bytes "") =>
        .ok ⟨groupId, keyId, chainKey, iteration, createdAt, senderEventPubkey⟩
    | _ => .error "invalid json"
  repairRequestToJson content :=
    .ok (object "repair" (optionalNumber content.keyId) (optionalNumber content.messageNumber)
      (optionalNumber content.requiredRevision) content.createdAt
      [[content.groupId, content.senderEventPubkey]] (.bytes ""))
  repairRequestFromJson
    | .rumor (.expandLabel (.digest "") "repair" keyId) (.secret number) revision createdAt
        [[groupId, senderEventPubkey]] (.bytes "") =>
        .ok ⟨groupId, senderEventPubkey, readOptionalNumber keyId, readOptionalNumber number,
          readOptionalNumber revision, createdAt⟩
    | _ => .error "invalid json"
  stringFromUtf8
    | .bytes text => .ok (.bytes text)
    | _ => .error "invalid utf-8"
  emptyText := .bytes ""

private theorem readOptionalNumber_optionalNumber (number : Option Nat) :
    readOptionalNumber (optionalNumber number) = number := by
  cases number <;> rfl

theorem wireLaws : WireLaws KeyTerm where
  parseTag _ _ := rfl
  event event bytes h := by
    obtain ⟨id, pubkey, createdAt, kind, tags, content⟩ := event
    cases id with
    | none => cases h
    | some id =>
        cases pubkey with
        | point key =>
            cases h
            rfl
        | _ => cases h
  envelope envelope bytes h := by
    obtain ⟨version, payload⟩ := envelope
    cases payload with
    | groupMessage groupId revision body =>
        cases h
        exact ⟨rfl, _, rfl⟩
    | _ => cases h
  distribution content text h := by
    cases h
    rfl
  repairRequest content text h := by
    cases h
    simp only [WirePrimitives.repairRequestFromJson, object, readOptionalNumber_optionalNumber]

end Symbolic

namespace GroupWire

/-- The owner, device and group of the examples. -/
def exampleOwner (n : Nat) : OwnerPubkey KeyTerm := ⟨.point (.secret n)⟩

def exampleDevice (n : Nat) : DevicePubkey KeyTerm := ⟨.point (.secret n)⟩

def exampleRecord (name : String) (revision : Nat) : GroupRecord KeyTerm where
  groupId := "group"
  protocol := GroupProtocol.senderKeyV1
  name := name
  picture := none
  about := some "about"
  createdBy := exampleOwner 1
  members := SortedSet.ofList [exampleOwner 1, exampleOwner 2]
  admins := SortedSet.ofList [exampleOwner 1]
  revision := revision
  createdAt := 5
  updatedAt := 6

private theorem hexRoundTrip_example (n : Nat) (h : n = 1 ∨ n = 2) :
    HexRoundTrip (exampleOwner n).bytes := by
  rcases h with rfl | rfl
  · exact ⟨by decide +kernel, by decide +kernel, by decide +kernel⟩
  · exact ⟨by decide +kernel, by decide +kernel, by decide +kernel⟩

private theorem exampleRecord_inRange (name : String) {revision : Nat}
    (hrevision : revision ≤ u64Max) : SnapshotInRange (exampleRecord name revision).snapshot := by
  have hmembers : ∀ member ∈ (exampleRecord name revision).members,
      member = exampleOwner 1 ∨ member = exampleOwner 2 := by
    intro member hmem
    simpa [exampleRecord] using hmem
  have hadmins : ∀ admin ∈ (exampleRecord name revision).admins, admin = exampleOwner 1 := by
    intro admin hmem
    simpa [exampleRecord] using hmem
  have hcreated : 5 ≤ u64Max := by decide
  have hupdated : 6 ≤ u64Max := by decide
  refine ⟨hrevision, hcreated, hupdated, hexRoundTrip_example 1 (Or.inl rfl), ?_, ?_⟩
  · intro member hmem
    rcases hmembers member (SortedSet.mem_toList.mp hmem) with rfl | rfl
    · exact hexRoundTrip_example 1 (Or.inl rfl)
    · exact hexRoundTrip_example 2 (Or.inr rfl)
  · intro admin hmem
    rw [hadmins admin (SortedSet.mem_toList.mp hmem)]
    exact hexRoundTrip_example 1 (Or.inl rfl)

theorem exists_of_isOk {α : Type} {x : Except Error α} (h : x.isOk = true) :
    ∃ a, x = .ok a := by
  cases x with
  | ok a => exact ⟨a, rfl⟩
  | error error => cases h

/-- The record of a group named `team` comes back. -/
theorem team_returns :
    ∃ payload, encodePairwiseCommand ⟨exampleDevice 3, 9⟩
        (.metadataSnapshot (exampleRecord "team" 2).snapshot) = .ok payload ∧
      decodePairwiseCommand payload =
        .ok (some (.metadataSnapshot (exampleRecord "team" 2).snapshot)) := by
  have hencode : (encodePairwiseCommand ⟨exampleDevice 3, 9⟩
      (.metadataSnapshot (exampleRecord "team" 2).snapshot)).isOk = true := by decide +kernel
  obtain ⟨payload, hpayload⟩ := exists_of_isOk hencode
  have hrange : CommandInRange (.metadataSnapshot (exampleRecord "team" 2).snapshot) :=
    ⟨exampleRecord_inRange "team" (by decide), exampleRecord "team" 2, rfl⟩
  have hplain : PlainTexts (exampleRecord "team" 2).snapshot :=
    ⟨by decide +kernel, by decide +kernel, by decide +kernel, by decide +kernel⟩
  exact ⟨payload, hpayload, ((decode_encode_eq_iff Symbolic.wireLaws ⟨exampleDevice 3, 9⟩).1 _
    payload hrange hpayload).mpr hplain⟩

/-- An admin renames the group to a name that starts with a blank: its own record keeps the
blank, and what its peers read has lost it. -/
theorem rename_with_blank_does_not_return :
    ∃ record payload,
      (exampleRecord "team" 2).applyRename (exampleOwner 1) " team" 2 3 6 = .ok record ∧
      CommandInRange (.metadataSnapshot record.snapshot : GroupPairwiseCommand KeyTerm TextTerm) ∧
      encodePairwiseCommand ⟨exampleDevice 3, 9⟩ (.metadataSnapshot record.snapshot) =
        .ok payload ∧
      decodePairwiseCommand payload ≠ .ok (some (.metadataSnapshot record.snapshot)) := by
  have hrename : (exampleRecord "team" 2).applyRename (exampleOwner 1) " team" 2 3 6 =
      .ok (exampleRecord " team" 3) := by decide +kernel
  have hencode : (encodePairwiseCommand ⟨exampleDevice 3, 9⟩
      (.metadataSnapshot (exampleRecord " team" 3).snapshot)).isOk = true := by decide +kernel
  obtain ⟨payload, hpayload⟩ := exists_of_isOk hencode
  have hrange : CommandInRange (.metadataSnapshot (exampleRecord " team" 3).snapshot) :=
    ⟨exampleRecord_inRange " team" (by decide), exampleRecord " team" 3, rfl⟩
  refine ⟨_, payload, hrename, hrange, hpayload, ?_⟩
  intro hreturns
  have hplain : PlainTexts (exampleRecord " team" 3).snapshot :=
    (decodePairwiseCommand_encode Symbolic.wireLaws hrange hpayload).mp hreturns
  exact absurd hplain.name (by decide +kernel)

end GroupWire

end NostrDoubleRatchet
