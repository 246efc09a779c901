import NostrDoubleRatchet.TypeScript.AppKeysEvents
import NostrDoubleRatchet.TypeScript.RosterProjection

/-!
Two readers of one AppKeys event, `AppKeys::from_event` of `app_keys.rs` and `AppKeys.fromEvent`
of `AppKeys.ts`. Each makes some checks before it comes to the device tags; then one rejects the
event for a device whose key it cannot read, and the other takes any text for a key and reads the
time of a device its own way.
-/

namespace NostrDoubleRatchet.AppKeysAgreement

open RosterAgreement RosterProjection Selection
open TypeScript (VerifiedEvent JsNumber isJsWhitespace jsTrim)

/-! ## Checks before the device tags -/

section Header

variable {K T : Type} [LinearOrder K] [Primitives K T] [EventPrimitives K]

/-- The checks of `AppKeys::from_event`. -/
def rustHeader (event : Event K) : Bool :=
  EventPrimitives.verifyEvent event && isAppKeysEvent event && event.content = "" &&
    (requiredInteger event "schema").toOption = some APP_KEYS_SCHEMA &&
    (pubkeyFromRequiredTag event APP_KEYS_OWNER_PUBKEY_FACT).toOption = some event.pubkey &&
    (appKeysProfileIdFromEvent event).isOk

/-- The checks of `AppKeys.fromEvent`. -/
def jsHeader (verifyEvent : VerifiedEvent → Bool) (event : VerifiedEvent) : Bool :=
  event.sig ≠ "" && verifyEvent event &&
    TypeScript.AppKeysEvents.isAppKeysSnapshotEvent event && event.content = "" &&
    ((TypeScript.AppKeysEvents.requireTagValue event.tags "schema").bind
      (TypeScript.AppKeysEvents.requireInteger · "schema")).toOption =
        some TypeScript.AppKeysEvents.APP_KEYS_SCHEMA &&
    ((TypeScript.AppKeysEvents.requireTagValue event.tags
        TypeScript.AppKeysEvents.APP_KEYS_OWNER_PUBKEY_FACT).bind
      (TypeScript.AppKeysEvents.requireHexPubkey · "owner")).toOption = some event.pubkey &&
    (TypeScript.AppKeysEvents.profileIdFromTags event.tags).isOk

theorem toOption_eq_some {ε α : Type} {result : Except ε α} {a : α} :
    result.toOption = some a ↔ result = .ok a := by
  cases result with
  | error e => exact ⟨fun h => (by cases h), fun h => (by cases h)⟩
  | ok b => exact ⟨fun h => by cases h; rfl, fun h => by cases h; rfl⟩

theorem isOk_iff {ε α : Type} {result : Except ε α} :
    result.isOk = true ↔ ∃ a, result = .ok a := by
  cases result with
  | error e => exact ⟨fun h => (by cases h), fun h => (by obtain ⟨_, h⟩ := h; cases h)⟩
  | ok b => exact ⟨fun _ => ⟨b, rfl⟩, fun _ => rfl⟩

/-- The Rust client accepts an event if its checks pass and it can read every device. -/
theorem rust_fromEvent_eq_ok {event : Event K} {appKeys : AppKeys K} :
    AppKeys.fromEvent event = .ok appKeys ↔ rustHeader event = true ∧
      ∃ devices, deviceEntries event event.tags = .ok devices ∧ appKeys = AppKeys.new devices := by
  unfold AppKeys.fromEvent rustHeader
  simp only [Bool.and_eq_true, decide_eq_true_eq, toOption_eq_some, isOk_iff]
  constructor
  · intro h
    split at h
    · cases h
    · rename_i hverify
      split at h
      · cases h
      · rename_i hkind
        split at h
        · cases h
        · rename_i hcontent
          rw [except_bind_eq_ok] at h
          obtain ⟨schema, hschema, h⟩ := h
          split at h
          · cases h
          · rename_i hone
            rw [except_bind_eq_ok] at h
            obtain ⟨owner, howner, h⟩ := h
            split at h
            · cases h
            · rename_i hsame
              rw [except_bind_eq_ok] at h
              obtain ⟨profileId, hprofile, h⟩ := h
              rw [except_bind_eq_ok] at h
              obtain ⟨devices, hdevices, h⟩ := h
              cases h
              rw [not_not] at hcontent hone hsame
              subst hone hsame
              exact ⟨⟨⟨⟨⟨⟨by simpa using hverify, by simpa using hkind⟩, hcontent⟩, hschema⟩, howner⟩,
                profileId, hprofile⟩, devices, hdevices, rfl⟩
  · rintro ⟨⟨⟨⟨⟨⟨hverify, hkind⟩, hcontent⟩, hschema⟩, howner⟩, profileId, hprofile⟩, devices,
      hdevices, rfl⟩
    rw [hverify, hkind, if_neg (by decide), if_neg (by decide), if_neg (not_not.mpr hcontent),
      except_bind_eq_ok]
    refine ⟨_, hschema, ?_⟩
    rw [if_neg (not_not.mpr rfl), except_bind_eq_ok]
    refine ⟨_, howner, ?_⟩
    rw [if_neg (not_not.mpr rfl), hprofile, hdevices]
    rfl

theorem js_fromEvent_eq_ok {verifyEvent : VerifiedEvent → Bool} {event : VerifiedEvent}
    {appKeys : TypeScript.AppKeysEvents.AppKeys} :
    TypeScript.AppKeysEvents.AppKeys.fromEvent verifyEvent event = .ok appKeys ↔
      jsHeader verifyEvent event = true ∧ appKeys =
        TypeScript.AppKeysEvents.AppKeys.new (TypeScript.AppKeysEvents.deviceEntries event) := by
  unfold TypeScript.AppKeysEvents.AppKeys.fromEvent jsHeader
  simp only [except_bind_eq_ok, TypeScript.ensure_eq_ok, Bool.and_eq_true, decide_eq_true_eq,
    toOption_eq_some, isOk_iff]
  constructor
  · rintro ⟨-, hsig, -, hverify, -, hkind, -, hcontent, text, htext, schema, hschema, -, hone, owner,
      howner, key, hkey, -, hsame, profileId, hprofile, hok⟩
    cases hok
    rw [hone] at hschema
    rw [hsame] at hkey
    exact ⟨⟨⟨⟨⟨⟨⟨hsig, hverify⟩, hkind⟩, hcontent⟩, except_bind_eq_ok.mpr ⟨text, htext, hschema⟩⟩,
      except_bind_eq_ok.mpr ⟨owner, howner, hkey⟩⟩, profileId, hprofile⟩, rfl⟩
  · rintro ⟨⟨⟨⟨⟨⟨⟨hsig, hverify⟩, hkind⟩, hcontent⟩, hschema⟩, howner⟩, profileId, hprofile⟩, rfl⟩
    obtain ⟨text, htext, hone⟩ := except_bind_eq_ok.mp hschema
    obtain ⟨owner, howner, hkey⟩ := except_bind_eq_ok.mp howner
    exact ⟨(), hsig, (), hverify, (), hkind, (), hcontent, text, htext, _, hone, (), rfl, owner,
      howner, _, hkey, (), rfl, profileId, hprofile, rfl⟩

/-- The signature is checked alike, and a signer is a key. -/
structure SameSignature (verifyEvent : VerifiedEvent → Bool) (event : Event K) : Prop where
  verified : EventPrimitives.verifyEvent event = true ↔
    event.sig ≠ "" ∧ verifyEvent (wireEvent event) = true
  signer : EventPrimitives.verifyEvent event = true →
    Primitives.publicKeyFromSlice event.pubkey = .ok event.pubkey

variable (K) in
/-- A key is made of its bytes. -/
def KeyBytes : Prop :=
  ∀ bytes key : K, Primitives.publicKeyFromSlice bytes = .ok key → key = bytes

def headerKeys : List String := ["type", "schema", APP_KEYS_OWNER_PUBKEY_FACT]

/-- Both clients trim the values of the header alike, the schema has no sign, and a profile id is
of a version and variant that UUIDs have. -/
structure PlainHeader (tags : List (List String)) : Prop where
  trims : ∀ key ∈ headerKeys, ∀ raw ∈ rawValues tags (hasKey key), trim raw = jsTrim raw
  unsigned : ∀ value ∈ TypeScript.tagValues tags "schema", value.toList.head? ≠ some '+'
  profile : ∀ raw, (rawValues tags isSubject).head? = some raw → trim raw = jsTrim raw ∧
    (isUuidLike (jsTrim raw) = true → TypeScript.AppKeysEvents.isProfileId (jsTrim raw) = true)

omit [LinearOrder K] [EventPrimitives K] [Primitives K T] in
theorem headerValues_eq {event : Event K} (h : PlainHeader event.tags) {key : String}
    (hkey : key ∈ headerKeys) : tagValues event key = TypeScript.tagValues event.tags key := by
  have hrust : tagValues event key = ((rawValues event.tags (hasKey key)).map trim).filter
      (· ≠ "") := by
    unfold tagValues
    rw [← rustValues_eq]
    congr 2
    funext tag
    by_cases hhead : tag.head? = some key
    · simp [hasKey, hhead]
    · simp [hasKey, hhead]
  rw [hrust, jsTagValues_eq, List.map_congr_left (h.trims key hkey)]

omit [LinearOrder K] [EventPrimitives K] [Primitives K T] in
theorem requiredTagValue_iff {event : Event K} (h : PlainHeader event.tags) {key value : String}
    (hkey : key ∈ headerKeys) : requiredTagValue event key = .ok value ↔
      TypeScript.AppKeysEvents.requireTagValue event.tags key = .ok value := by
  unfold requiredTagValue TypeScript.AppKeysEvents.requireTagValue TypeScript.firstTagValue
  rw [headerValues_eq h hkey]
  cases (TypeScript.tagValues event.tags key).head? with
  | none => simp
  | some found => simp

theorem parseU64_of_unsigned {value : String} (hplus : value.toList.head? ≠ some '+') :
    parseU64 value = if value.toList ≠ [] ∧ value.toList.all Char.isDigit = true ∧
        Nat.ofDigitChars 10 value.toList 0 ≤ u64Max then
      some (Nat.ofDigitChars 10 value.toList 0) else none := by
  rw [Nat.ofDigitChars_eq_foldl]
  unfold parseU64
  generalize value.toList = digits at hplus ⊢
  dsimp only
  split
  · exact absurd rfl hplus
  · rfl

theorem parseU64_one_iff {value label : String} (hplus : value.toList.head? ≠ some '+') :
    parseU64 value = some 1 ↔ TypeScript.AppKeysEvents.requireInteger value label = .ok 1 := by
  have hmax : u64Max = 2 ^ 64 - 1 := rfl
  have hsafe : TypeScript.maxSafeInteger = 2 ^ 53 - 1 := rfl
  rw [parseU64_of_unsigned hplus]
  unfold TypeScript.AppKeysEvents.requireInteger
  dsimp only
  generalize Nat.ofDigitChars 10 value.toList 0 = n
  generalize value.toList = digits
  by_cases hdigits : digits ≠ [] ∧ digits.all Char.isDigit = true
  · rw [if_neg (show ¬ (digits = [] ∨ ¬ digits.all Char.isDigit = true) from fun hor =>
      hor.elim hdigits.1 (fun hnot => hnot hdigits.2))]
    by_cases hn : n = 1
    · subst hn
      rw [if_pos ⟨hdigits.1, hdigits.2, by omega⟩, if_neg (by omega)]
      exact ⟨fun _ => rfl, fun _ => rfl⟩
    · constructor
      · intro h
        split at h
        · exact absurd (Option.some.inj h) hn
        · cases h
      · intro h
        split at h
        · cases h
        · exact absurd (Except.ok.inj h) hn
  · rw [if_neg (fun h => hdigits ⟨h.1, h.2.1⟩), if_pos (by
      by_contra hnot
      rw [not_or, not_not] at hnot
      exact hdigits hnot)]
    exact ⟨fun h => (by cases h), fun h => (by cases h)⟩

omit [LinearOrder K] [EventPrimitives K] [Primitives K T] in
theorem schema_iff {event : Event K} (h : PlainHeader event.tags) :
    requiredInteger event "schema" = .ok APP_KEYS_SCHEMA ↔
      (TypeScript.AppKeysEvents.requireTagValue event.tags "schema").bind
        (TypeScript.AppKeysEvents.requireInteger · "schema") =
          .ok TypeScript.AppKeysEvents.APP_KEYS_SCHEMA := by
  unfold requiredInteger
  rw [except_bind_eq_ok]
  refine Iff.trans (exists_congr fun value => ?_) except_bind_eq_ok.symm
  rw [requiredTagValue_iff h (by decide)]
  refine and_congr_right fun hvalue => ?_
  have hmem : value ∈ TypeScript.tagValues event.tags "schema" := by
    unfold TypeScript.AppKeysEvents.requireTagValue at hvalue
    split at hvalue
    · cases hvalue
    · rename_i found hfound
      cases hvalue
      exact List.mem_of_head? hfound
  refine Iff.trans ?_ (parseU64_one_iff (h.unsigned value hmem))
  split
  · rename_i number hnumber
    rw [hnumber]
    exact ⟨fun heq => by rw [Except.ok.inj heq]; rfl, fun heq => by rw [Option.some.inj heq]; rfl⟩
  · rename_i hnone
    rw [hnone]
    exact ⟨fun heq => (by cases heq), fun heq => (by cases heq)⟩

omit [LinearOrder K] in
/-- The text of a key, once trimmed, is read alike. -/
theorem pubkeyFromHex_text (laws : HexLaws K T) (hbytes : KeyBytes K) {text : String} {key : K}
    (h : pubkeyFromHex text = .ok key) :
    TypeScript.isHex64 text = true ∧ Primitives.toHex key = lowerHex text := by
  unfold pubkeyFromHex at h
  rw [except_bind_eq_ok] at h
  obtain ⟨decoded, hdecoded, h⟩ := h
  rw [mapError_eq_ok] at hdecoded
  split at h
  · cases h
  · rename_i bytes
    rw [mapError_eq_ok] at h
    have hhex := laws.rejects text bytes hdecoded
    obtain ⟨found, hfound, htext⟩ := laws.reads text hhex
    rw [hdecoded] at hfound
    cases hfound
    rw [hbytes bytes key h]
    exact ⟨hhex, htext⟩

omit [LinearOrder K] in
theorem owner_iff (laws : HexLaws K T) (hbytes : KeyBytes K) {event : Event K}
    (h : PlainHeader event.tags)
    (hsigner : Primitives.publicKeyFromSlice event.pubkey = .ok event.pubkey) :
    pubkeyFromRequiredTag event APP_KEYS_OWNER_PUBKEY_FACT = .ok event.pubkey ↔
      (TypeScript.AppKeysEvents.requireTagValue event.tags
          TypeScript.AppKeysEvents.APP_KEYS_OWNER_PUBKEY_FACT).bind
        (TypeScript.AppKeysEvents.requireHexPubkey · "owner") =
          .ok (Primitives.toHex event.pubkey) := by
  unfold pubkeyFromRequiredTag
  rw [except_bind_eq_ok]
  refine Iff.trans (exists_congr fun value => ?_) except_bind_eq_ok.symm
  rw [requiredTagValue_iff h (by decide)]
  refine and_congr_right fun hvalue => ?_
  have hmem : value ∈ TypeScript.tagValues event.tags APP_KEYS_OWNER_PUBKEY_FACT := by
    unfold TypeScript.AppKeysEvents.requireTagValue at hvalue
    split at hvalue
    · cases hvalue
    · rename_i found hfound
      cases hvalue
      exact List.mem_of_head? hfound
  have htrim := jsTrim_of_mem_tagValues hmem
  have hjs : TypeScript.AppKeysEvents.requireHexPubkey value "owner" =
        .ok (Primitives.toHex event.pubkey) ↔
      TypeScript.isHex64 value = true ∧ Primitives.toHex event.pubkey = lowerHex value := by
    have hlower : String.ofList (value.toList.map Char.toLower) = lowerHex value := rfl
    unfold TypeScript.AppKeysEvents.requireHexPubkey TypeScript.AppKeysEvents.normalizeHexPubkey
    rw [htrim, hlower]
    dsimp only
    rw [isHex64_lowerHex]
    by_cases hhex : TypeScript.isHex64 value = true
    · rw [if_pos hhex]
      exact ⟨fun heq => ⟨hhex, (Except.ok.inj heq).symm⟩, fun heq => by rw [heq.2]⟩
    · rw [if_neg hhex]
      exact ⟨fun heq => (by cases heq), fun heq => absurd heq.1 hhex⟩
  rw [hjs]
  constructor
  · exact pubkeyFromHex_text laws hbytes
  · rintro ⟨hhex, htext⟩
    obtain ⟨found, hfound, hfoundText⟩ := laws.reads value hhex
    have hsame : found = event.pubkey := laws.injective _ _ (hfoundText.trans htext.symm)
    subst hsame
    unfold pubkeyFromHex
    rw [except_bind_eq_ok]
    refine ⟨some event.pubkey, by rw [hfound]; rfl, ?_⟩
    exact mapError_eq_ok.mpr hsigner

/-! Profile ids. -/

theorem toLower_eq_dash {c : Char} : c.toLower = '-' ↔ c = '-' := by
  have hnat := toNat_toLower c
  have hdash : '-'.toNat = 45 := rfl
  rw [← Char.toNat_inj, ← Char.toNat_inj, hnat, hdash]
  split
  · omega
  · rfl

theorem isUuidLike_toLower (text : String) : isUuidLike text.toLower = isUuidLike text := by
  unfold isUuidLike
  have hlist : text.toLower.toList = text.toList.map Char.toLower := String.toList_map
  rw [hlist, List.length_map, List.zipIdx_map, List.all_map]
  congr 2
  funext entry
  obtain ⟨c, index⟩ := entry
  simp only [Function.comp_apply, Prod.map_apply, id_eq]
  split
  · rw [decide_eq_decide]
    exact toLower_eq_dash
  · exact isAsciiHexDigit_toLower c

theorem trim_toLower_trim (text : String) : trim (trim text).toLower = (trim text).toLower := by
  have hlist : (trim text).toLower.toList = (trim text).toList.map Char.toLower :=
    String.toList_map
  have htrimmed : trimBy isWhitespace (trim text).toList = (trim text).toList := by
    have h := trimmed_trim text
    unfold Trimmed at h
    rw [trim_eq_trimBy] at h
    simpa using congrArg String.toList h
  rw [trim_eq_trimBy, hlist, trimBy_map isWhitespace_toLower, htrimmed, ← hlist, String.ofList_toList]

/-- What the Rust client asks of a profile id. -/
theorem canonicalProfileId_isOk (text : String) :
    (canonicalProfileId (trim text).toLower).isOk = isUuidLike (trim text) := by
  unfold canonicalProfileId
  rw [trim_toLower_trim]
  dsimp only
  rw [isUuidLike_toLower, isUuidLike_toLower]
  split
  · rename_i h
    rw [h]
    rfl
  · rename_i h
    rw [Bool.not_eq_true] at h
    rw [h]
    rfl

theorem find?_subject (tags : List (List String)) :
    (tags.find? isSubject).bind (·[1]?) = (rawValues tags isSubject).head? := by
  unfold rawValues
  induction tags with
  | nil => rfl
  | cons tag rest ih =>
      by_cases hsubject : isSubject tag = true
      · rw [List.find?_cons_of_pos hsubject]
        unfold isSubject at hsubject
        rw [Bool.and_eq_true, decide_eq_true_eq, decide_eq_true_eq] at hsubject
        match tag, hsubject with
        | [_], h => cases h.2
        | first :: second :: others, h =>
            rw [List.filterMap_cons_some (b := second)]
            · rfl
            · rw [if_pos]
              · rfl
              · simp [isSubject, h.1, h.2]
      · rw [List.find?_cons_of_neg hsubject, List.filterMap_cons_none (by rw [if_neg hsubject])]
        exact ih

theorem isUuidLike_of_isProfileId {text : String}
    (h : TypeScript.AppKeysEvents.isProfileId text = true) : isUuidLike text = true := by
  unfold TypeScript.AppKeysEvents.isProfileId at h
  unfold isUuidLike
  rw [Bool.and_eq_true, List.all_eq_true] at h ⊢
  refine ⟨h.1, ?_⟩
  rintro ⟨c, index⟩ hmem
  have hc := h.2 (c, index) hmem
  dsimp only at hc ⊢
  split
  · rename_i hdash
    rw [if_pos hdash] at hc
    exact hc
  · rename_i hdash
    rw [if_neg hdash] at hc
    split at hc
    · rw [Bool.and_eq_true, decide_eq_true_eq, decide_eq_true_eq] at hc
      have hlow : '1'.toNat ≤ c.toNat := hc.1
      have hhigh : c.toNat ≤ '8'.toNat := hc.2
      have hone : '1'.toNat = 49 := rfl
      have height : '8'.toNat = 56 := rfl
      have hzero : '0'.toNat = 48 := rfl
      have hnine : '9'.toNat = 57 := rfl
      unfold isAsciiHexDigit
      rw [Char.isDigit_iff_toNat.mpr ⟨by omega, by omega⟩]
      rfl
    · split at hc
      · have hall : ['8', '9', 'a', 'b', 'A', 'B'].all isAsciiHexDigit = true := by decide
        exact List.all_eq_true.mp hall c (List.contains_iff_mem.mp hc)
      · exact hc

omit [LinearOrder K] [EventPrimitives K] [Primitives K T] in
theorem profile_eq {event : Event K} (h : PlainHeader event.tags) :
    (appKeysProfileIdFromEvent event).isOk =
      (TypeScript.AppKeysEvents.profileIdFromTags event.tags).isOk := by
  have hrust : (event.tags.filterMap (fun tag =>
      if tag.head? = some "i" ∧ tag[2]? = some "subject" then
        tag[1]?.map (fun value => (trim value).toLower) else none)).head? =
      (rawValues event.tags isSubject).head?.map (fun value => (trim value).toLower) := by
    rw [← List.head?_map]
    unfold rawValues
    rw [List.map_filterMap]
    congr 2
    funext tag
    by_cases hsubject : tag.head? = some "i" ∧ tag[2]? = some "subject"
    · rw [if_pos hsubject, if_pos (by simp [isSubject, hsubject])]
    · rw [if_neg hsubject, if_neg (by simpa [isSubject] using hsubject)]
      rfl
  have hfind := find?_subject event.tags
  unfold isSubject at hfind
  unfold appKeysProfileIdFromEvent TypeScript.AppKeysEvents.profileIdFromTags
  dsimp only
  rw [hrust, hfind]
  cases hraw : (rawValues event.tags isSubject).head? with
  | none =>
      have hraw' := hraw
      unfold isSubject at hraw'
      rw [hraw']
      rfl
  | some raw =>
      have hraw' := hraw
      unfold isSubject at hraw'
      obtain ⟨htrim, hprofile⟩ := h.profile raw hraw
      rw [hraw', Option.map_some, Option.map_some]
      dsimp only
      rw [canonicalProfileId_isOk, htrim]
      by_cases hvalid : TypeScript.AppKeysEvents.isProfileId (jsTrim raw) = true
      · have hne : jsTrim raw ≠ "" := by
          intro hempty
          rw [hempty] at hvalid
          exact absurd hvalid (by decide)
        rw [if_neg (by simp [hne, hvalid]), isUuidLike_of_isProfileId hvalid]
        rfl
      · rw [if_pos (Or.inr hvalid)]
        have huuid : isUuidLike (jsTrim raw) = false := by
          rw [← Bool.not_eq_true]
          exact fun huuid => hvalid (hprofile huuid)
        rw [huuid]
        rfl

/-- A plain header passes both readers or neither. -/
theorem header_eq (laws : HexLaws K T) (hbytes : KeyBytes K) {verifyEvent : VerifiedEvent → Bool}
    {event : Event K} (hsig : SameSignature verifyEvent event) (h : PlainHeader event.tags) :
    rustHeader event = jsHeader verifyEvent (wireEvent event) := by
  have hkind : isAppKeysEvent event =
      TypeScript.AppKeysEvents.isAppKeysSnapshotEvent (wireEvent event) := by
    have htypes : (tagValues event "type").any (fun value => value = APP_KEYS_FACT_TYPE) =
        (TypeScript.tagValues event.tags "type").contains
          TypeScript.AppKeysEvents.APP_KEYS_FACT_TYPE := by
      rw [headerValues_eq h (by decide), List.contains_eq_any_beq]
      congr 1
      funext value
      rw [Bool.eq_iff_iff, decide_eq_true_eq, beq_iff_eq]
      exact eq_comm
    unfold isAppKeysEvent TypeScript.AppKeysEvents.isAppKeysSnapshotEvent
    rw [htypes]
    unfold wireEvent APP_KEYS_SNAPSHOT_KIND TypeScript.AppKeysEvents.APP_KEYS_SNAPSHOT_KIND
    rfl
  rw [Bool.eq_iff_iff]
  unfold rustHeader jsHeader
  simp only [Bool.and_eq_true, decide_eq_true_eq, toOption_eq_some, hkind, profile_eq h,
    schema_iff h]
  constructor
  · rintro ⟨⟨⟨⟨⟨hverify, hevent⟩, hcontent⟩, hschema⟩, howner⟩, hprofile⟩
    obtain ⟨hsigned, hjsVerify⟩ := hsig.verified.mp hverify
    have hjsOwner := (owner_iff laws hbytes h (hsig.signer hverify)).mp howner
    exact ⟨⟨⟨⟨⟨⟨hsigned, hjsVerify⟩, hevent⟩, hcontent⟩, hschema⟩, hjsOwner⟩, hprofile⟩
  · rintro ⟨⟨⟨⟨⟨⟨hsigned, hjsVerify⟩, hevent⟩, hcontent⟩, hschema⟩, howner⟩, hprofile⟩
    have hverify := hsig.verified.mpr ⟨hsigned, hjsVerify⟩
    have hrustOwner := (owner_iff laws hbytes h (hsig.signer hverify)).mpr howner
    exact ⟨⟨⟨⟨⟨hverify, hevent⟩, hcontent⟩, hschema⟩, hrustOwner⟩, hprofile⟩

end Header

/-! ## Device tags -/

section Devices

variable {K T : Type} [LinearOrder K] [Primitives K T] [EventPrimitives K]

/-- Key and time of the device tags, as they were sent. -/
def deviceTags (tags : List (List String)) : List (String × String) :=
  tags.filterMap (fun tag =>
    match tag with
    | "device" :: identityPubkey :: createdAt :: _ => some (identityPubkey, createdAt)
    | _ => none)

/-- The time that the Rust client reads. -/
def rustCreatedAt (event : Event K) (createdAt : String) : Nat :=
  (parseU64 createdAt).getD event.createdAt

/-- The Rust client can read the key of every device. -/
def ReadableKeys (event : Event K) : Prop :=
  ∀ device ∈ deviceTags event.tags, ∃ key : K, pubkeyFromHex device.1 = .ok key

/-- Both clients read one time from the last tag of each device. -/
def SameTimes (event : Event K) : Prop :=
  ∀ front device back, deviceTags event.tags = front ++ device :: back →
    (∀ later ∈ back, (pubkeyFromHex later.1 : Except Error K) ≠ pubkeyFromHex device.1) →
    TypeScript.AppKeysEvents.deviceCreatedAt device.2 event.createdAt =
      .integer (rustCreatedAt event device.2)

/-- The same devices with the same times. -/
structure SameDevices (rust : AppKeys K) (js : TypeScript.AppKeysEvents.AppKeys) : Prop where
  devices : ∀ key : K, (js.devices.get? (Primitives.toHex key)).map
      TypeScript.AppKeysEvents.DeviceEntry.createdAt =
    (rust.devices.get? key).map (fun device => .integer device.createdAt)
  keys : ∀ text ∈ js.devices.keys, ∃ key : K, Primitives.toHex key = text

/-- The entry of a device tag whose key can be read. -/
def rustEntry (event : Event K) (device : String × String) : DeviceEntry K :=
  ⟨(pubkeyFromHex device.1).toOption.getD event.pubkey, rustCreatedAt event device.2⟩

def jsEntry (event : Event K) (device : String × String) : TypeScript.AppKeysEvents.DeviceEntry :=
  ⟨lowerHex (jsTrim device.1),
    TypeScript.AppKeysEvents.deviceCreatedAt device.2 event.createdAt⟩

omit [LinearOrder K] [EventPrimitives K] in
theorem jsEntries_eq (event : Event K) : TypeScript.AppKeysEvents.deviceEntries (wireEvent event) =
    (deviceTags event.tags).map (jsEntry event) := by
  unfold TypeScript.AppKeysEvents.deviceEntries deviceTags
  rw [List.map_filterMap]
  congr 1
  funext tag
  split
  · rfl
  · rename_i hother
    first
    | rfl
    | split
      · rename_i identityPubkey createdAt rest
        exact absurd rfl (hother identityPubkey createdAt rest)
      · rfl

omit [LinearOrder K] in
theorem deviceEntries_eq_ok {event : Event K} {tags : List (List String)}
    {entries : List (DeviceEntry K)} :
    deviceEntries event tags = .ok entries ↔
      (∀ device ∈ deviceTags tags, ∃ key : K, pubkeyFromHex device.1 = .ok key) ∧
        entries = (deviceTags tags).map (rustEntry event) := by
  induction tags using deviceEntries.induct generalizing entries with
  | case1 =>
      rw [deviceEntries]
      exact ⟨fun h => by cases h; exact ⟨fun _ h => (by cases h), rfl⟩, fun h => by rw [h.2]; rfl⟩
  | case2 pkHex createdAt others rest ih =>
      have hcons : deviceTags (("device" :: pkHex :: createdAt :: others) :: rest) =
          (pkHex, createdAt) :: deviceTags rest := rfl
      rw [deviceEntries, except_bind_eq_ok, hcons, List.map_cons]
      constructor
      · rintro ⟨key, hkey, h⟩
        rw [except_bind_eq_ok] at h
        obtain ⟨later, hlater, h⟩ := h
        cases h
        obtain ⟨hvalid, rfl⟩ := ih.mp hlater
        refine ⟨?_, ?_⟩
        · intro device hmem
          rcases List.mem_cons.mp hmem with rfl | hmem
          · exact ⟨key, hkey⟩
          · exact hvalid device hmem
        · congr 1
          unfold rustEntry
          rw [hkey]
          rfl
      · rintro ⟨hvalid, rfl⟩
        obtain ⟨key, hkey⟩ := hvalid (pkHex, createdAt) List.mem_cons_self
        refine ⟨key, hkey, ?_⟩
        rw [except_bind_eq_ok]
        refine ⟨_, ih.mpr ⟨fun device hmem => hvalid device (List.mem_cons_of_mem _ hmem), rfl⟩, ?_⟩
        unfold rustEntry
        rw [hkey]
        rfl
  | case3 tag rest hother ih =>
      have hskip : deviceTags (tag :: rest) = deviceTags rest := by
        unfold deviceTags
        rw [List.filterMap_cons_none]
        split
        · rename_i identityPubkey createdAt others
          exact absurd rfl (hother identityPubkey createdAt others)
        · rfl
      rw [deviceEntries, hskip]
      · exact ih
      · exact hother

omit [Primitives K T] [EventPrimitives K] in
theorem get?_new (entries : List (DeviceEntry K)) (key : K) :
    (AppKeys.new entries).devices.get? key =
      (entries.filter (fun entry => entry.identityPubkey = key)).getLast? :=
  get_foldl_eq_getLast? SortedMap.get? _ (fun _ => rfl)
    (fun m entry k => SortedMap.get?_insert m entry.identityPubkey k entry) entries key

theorem jsGet?_new (entries : List TypeScript.AppKeysEvents.DeviceEntry) (text : String) :
    (TypeScript.AppKeysEvents.AppKeys.new entries).devices.get? text =
      (entries.filter (fun entry => entry.identityPubkey = text)).getLast? :=
  get_foldl_eq_getLast? InsertionMap.get? _ (fun _ => rfl)
    (fun m entry k => InsertionMap.get?_set m entry.identityPubkey k entry) entries text

section Maps

variable (laws : HexLaws K T) (hbytes : KeyBytes K) {event : Event K}

omit [LinearOrder K] in
theorem rustEntry_key {device : String × String} {key : K}
    (h : pubkeyFromHex device.1 = .ok key) : (rustEntry event device).identityPubkey = key := by
  unfold rustEntry
  rw [h]
  rfl

include laws hbytes

omit [LinearOrder K] in
theorem jsEntry_key {device : String × String} {key : K} (h : pubkeyFromHex device.1 = .ok key) :
    (jsEntry event device).identityPubkey = Primitives.toHex key := by
  obtain ⟨hhex, htext⟩ := pubkeyFromHex_text laws hbytes h
  unfold jsEntry
  rw [jsTrim_of_isHex64 hhex, htext]

variable (hkeys : ReadableKeys event)

include hkeys

/-- The last tag of a device, under the key of either client. -/
theorem jsLast_eq (key : K) :
    (deviceTags event.tags).filter
        (fun device => (jsEntry event device).identityPubkey = Primitives.toHex key) =
      (deviceTags event.tags).filter
        (fun device => (rustEntry event device).identityPubkey = key) := by
  apply List.filter_congr
  intro device hmem
  obtain ⟨found, hfound⟩ := hkeys device hmem
  rw [rustEntry_key hfound, jsEntry_key laws hbytes hfound, decide_eq_decide]
  exact ⟨fun h => laws.injective _ _ h, fun h => by rw [h]⟩

theorem sameDevices_iff :
    SameDevices (AppKeys.new ((deviceTags event.tags).map (rustEntry event)))
        (TypeScript.AppKeysEvents.AppKeys.new ((deviceTags event.tags).map (jsEntry event))) ↔
      ∀ (key : K) device, ((deviceTags event.tags).filter
          (fun device => (rustEntry event device).identityPubkey = key)).getLast? = some device →
        TypeScript.AppKeysEvents.deviceCreatedAt device.2 event.createdAt =
          .integer (rustCreatedAt event device.2) := by
  have hrust : ∀ key : K, ((AppKeys.new ((deviceTags event.tags).map
      (rustEntry event))).devices.get? key).map (fun device => JsNumber.integer device.createdAt) =
      ((deviceTags event.tags).filter
        (fun device => (rustEntry event device).identityPubkey = key)).getLast?.map
          (fun device => JsNumber.integer (rustCreatedAt event device.2)) := by
    intro key
    rw [get?_new, List.filter_map, List.getLast?_map, Option.map_map]
    rfl
  have hjs : ∀ key : K, ((TypeScript.AppKeysEvents.AppKeys.new ((deviceTags event.tags).map
      (jsEntry event))).devices.get? (Primitives.toHex key)).map
        TypeScript.AppKeysEvents.DeviceEntry.createdAt =
      ((deviceTags event.tags).filter
        (fun device => (rustEntry event device).identityPubkey = key)).getLast?.map
          (fun device =>
            TypeScript.AppKeysEvents.deviceCreatedAt device.2 event.createdAt) := by
    intro key
    rw [jsGet?_new, List.filter_map]
    simp only [Function.comp_def]
    rw [jsLast_eq laws hbytes hkeys, List.getLast?_map, Option.map_map]
    simp only [Function.comp_def, jsEntry]
  constructor
  · intro h key device hlast
    have hsame := h.devices key
    rw [hrust, hjs, hlast] at hsame
    exact Option.some.inj hsame
  · intro h
    refine ⟨?_, ?_⟩
    · intro key
      rw [hrust, hjs]
      cases hlast : ((deviceTags event.tags).filter
          (fun device => (rustEntry event device).identityPubkey = key)).getLast? with
      | none => rfl
      | some device => exact congrArg some (h key device hlast)
    · intro text htext
      rw [InsertionMap.mem_keys, jsGet?_new, Option.isSome_iff_exists] at htext
      obtain ⟨entry, hentry⟩ := htext
      have hmem := List.mem_filter.mp (List.mem_of_getLast? hentry)
      obtain ⟨device, hdevice, rfl⟩ := List.mem_map.mp hmem.1
      obtain ⟨key, hkey⟩ := hkeys device hdevice
      refine ⟨key, ?_⟩
      rw [← jsEntry_key laws hbytes hkey]
      exact of_decide_eq_true hmem.2

omit [LinearOrder K] laws hbytes in
theorem pubkeyFromHex_rustEntry {device : String × String} (h : device ∈ deviceTags event.tags) :
    pubkeyFromHex device.1 = .ok (rustEntry event device).identityPubkey := by
  obtain ⟨key, hkey⟩ := hkeys device h
  rw [hkey, rustEntry_key hkey]

theorem sameDevices_iff_sameTimes :
    SameDevices (AppKeys.new ((deviceTags event.tags).map (rustEntry event)))
        (TypeScript.AppKeysEvents.AppKeys.new ((deviceTags event.tags).map (jsEntry event))) ↔
      SameTimes event := by
  have hread : ∀ {device}, device ∈ deviceTags event.tags →
      pubkeyFromHex device.1 = .ok (rustEntry event device).identityPubkey :=
    fun hmem => pubkeyFromHex_rustEntry hkeys hmem
  rw [sameDevices_iff laws hbytes hkeys]
  constructor
  · intro h front device back hsplit hlast
    apply h (rustEntry event device).identityPubkey
    refine getLast?_filter_eq_some.mpr ⟨decide_eq_true rfl, front, back, hsplit, ?_⟩
    intro later hlater
    rw [decide_eq_false_iff_not]
    intro hsame
    apply hlast later hlater
    rw [hread (by rw [hsplit]; simp [hlater]), hread (by rw [hsplit]; simp), hsame]
  · intro h key device hlast
    obtain ⟨hkey, front, back, hsplit, hback⟩ := getLast?_filter_eq_some.mp hlast
    apply h front device back hsplit
    intro later hlater hsame
    have hne := of_decide_eq_false (hback later hlater)
    rw [hread (by rw [hsplit]; simp [hlater]), hread (by rw [hsplit]; simp)] at hsame
    exact hne ((Except.ok.inj hsame).trans (of_decide_eq_true hkey))

end Maps

end Devices

/-! One device, signed by the owner. -/

namespace Snapshot

open HexKey Concurrent

attribute [local instance] HexKey.primitives HexKey.eventPrimitives

def snapshotTags (device createdAt : String) : List (List String) :=
  [["type", "app_keys_roster_snapshot"], ["schema", "1"], ["owner_pubkey", zeros],
    ["i", "123e4567-e89b-42d3-a456-426614174000", "subject"], ["device", device, createdAt]]

def snapshot (device createdAt : String) : Event HexKey :=
  ⟨HexKey.zero, HexKey.zero, 9, 37368, snapshotTags device createdAt, "", "signed"⟩

theorem keyBytes : KeyBytes HexKey := by
  intro bytes key h
  cases h
  rfl

theorem sameSignature (device createdAt : String) :
    SameSignature (fun _ => true) (snapshot device createdAt) :=
  ⟨⟨fun _ => ⟨(by decide : "signed" ≠ ""), rfl⟩, fun _ => rfl⟩, fun _ => rfl⟩

end Snapshot

end NostrDoubleRatchet.AppKeysAgreement
