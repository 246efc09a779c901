import NostrDoubleRatchet.DeviceLink
import NostrDoubleRatchet.TypeScript.AppKeysEvents

/-!
The codes of `DeviceLink.ts` and those of `device_link.rs`. The clients write the same code and
read the same fields where the labels' white space is white space in both languages and no label
is cut right after a space; a code without a time is read as one of the present.
-/

namespace NostrDoubleRatchet.TypeScript.DeviceLink

open NostrDoubleRatchet.DeviceLink

structure DeviceLinkRequest where
  requestPubkey : String
  deviceAppKeyPubkey : String
  requestSecret : String
  requestedAt : Nat
  deviceLabel : Option String
  clientLabel : Option String
  deriving DecidableEq

/-- The argument of `encodeCompactDeviceLinkRequest`; a time that is no integer counts as
missing. -/
structure EncodeOptions where
  deviceAppKeyPubkey : String
  requestSecret : Option String
  requestSecretKey : Option (List UInt8)
  requestedAt : Option Int
  deviceLabel : Option String
  clientLabel : Option String

def isHex32Bytes (value : String) : Bool := isHex64 value

/-- `toLowerCase` of a hex text. -/
def lowerHex (text : String) : String := String.ofList (text.toList.map Char.toLower)

def normalizeLabel (label : Option String) : Option String :=
  label.bind (fun label =>
    let normalized := Collapse.replaceRuns isJsWhitespace ' ' false (jsTrim label).toList
    if normalized = [] then none else some (String.ofList (normalized.take 96)))

section

variable {K : Type} (codec : LinkCodec K)

def base64UrlEncodeUtf8 (value : String) : String :=
  let letters := (codec.btoa (codec.utf8 value)).toList.map
    (fun c => if c = '+' then '-' else if c = '/' then '_' else c)
  String.ofList (letters.rdropWhile (· = '='))

def base64UrlDecodeUtf8 (value : String) : Option String :=
  let letters := value.toList.map (fun c => if c = '-' then '+' else if c = '_' then '/' else c)
  let length := (letters.length + 3) / 4 * 4
  (codec.atob (String.ofList (letters ++ List.replicate (length - letters.length) '='))).map
    codec.utf8Decode

def encodeDeviceLinkMetadata (requestedAt : Option Int) (deviceLabel clientLabel : Option String) :
    String :=
  let requestedAt := (requestedAt.filter (0 ≤ ·)).map Int.toNat
  base64UrlEncodeUtf8 codec (codec.jsonToString
    (metadataFields ⟨1, requestedAt, normalizeLabel deviceLabel, normalizeLabel clientLabel⟩))

/-- The last of the fields of this name. -/
def lastField (fields : List (String × JsonField)) (name : String) : Option JsonField :=
  (fields.reverse.find? (fun field => field.1 = name)).map Prod.snd

def decodeDeviceLinkMetadata (input : String) : Option CompactDeviceLinkMetadata :=
  if input.toList = [] ∨ ¬ input.toList.all isUrlSafeChar then none
  else
    match (base64UrlDecodeUtf8 codec input).bind codec.jsonParse with
    | some (.object fields) =>
        if lastField fields "v" = some (.number (some 1)) then
          let requestedAt := match lastField fields "requestedAt" with
            | some (.number (some time)) => JsNumber.roundToDouble time
            | _ => none
          let label := fun name => match lastField fields name with
            | some (.string text) => some text
            | _ => none
          some ⟨1, requestedAt, normalizeLabel (label "deviceLabel"),
            normalizeLabel (label "clientLabel")⟩
        else none
    | _ => none

def encodeCompactDeviceLinkRequest (request : EncodeOptions) : Except String String :=
  let requestSecret := match request.requestSecretKey with
    | some requestSecretKey => some (HexText.encode requestSecretKey)
    | none => request.requestSecret
  match truthy requestSecret with
  | none => .error "Invalid compact device link request"
  | some requestSecret =>
      if ¬ isHex32Bytes request.deviceAppKeyPubkey ∨ ¬ isHex32Bytes requestSecret then
        .error "Invalid compact device link request"
      else
        let metadata := encodeDeviceLinkMetadata codec request.requestedAt request.deviceLabel
          request.clientLabel
        .ok (lowerHex request.deviceAppKeyPubkey ++ "." ++ lowerHex requestSecret ++ "." ++
          metadata)

/-- `getPublicKey` throws on a secret that is no key. -/
def parseCompactDeviceLinkRequest (currentUnixSeconds : Nat) (input : String) :
    Option DeviceLinkRequest :=
  match ((jsTrim input).toList.splitOn '.').map String.ofList with
  | [deviceAppKeyPubkey, requestSecret, encodedMetadata] =>
      if ¬ isHex32Bytes deviceAppKeyPubkey ∨ ¬ isHex32Bytes requestSecret then none
      else do
        let metadata ← decodeDeviceLinkMetadata codec encodedMetadata
        let requestSecretKey ← HexText.decode requestSecret
        let requestPubkey ← (codec.publicKey requestSecretKey).toOption
        pure ⟨codec.toHex requestPubkey, lowerHex deviceAppKeyPubkey, lowerHex requestSecret,
          metadata.requestedAt.getD currentUnixSeconds, metadata.deviceLabel,
          metadata.clientLabel⟩
  | _ => none

end

/-! Labels. -/

/-- White space in one language is white space in the other. -/
def SameWhitespace (label : Option String) : Prop :=
  ∀ text, label = some text → ∀ c ∈ text.toList, isWhitespace c = isJsWhitespace c

theorem normalizeLabel_eq {label : Option String} (h : SameWhitespace label) :
    normalizeLabel label = NostrDoubleRatchet.DeviceLink.normalizeLabel label := by
  cases label with
  | none =>
      unfold normalizeLabel NostrDoubleRatchet.DeviceLink.normalizeLabel
      rw [Option.bind_none, Option.bind_none]
  | some text =>
      have htrim : (jsTrim text).toList = Collapse.trim isJsWhitespace text.toList :=
        String.toList_ofList
      have hwords := Collapse.words_congr (h text rfl)
      unfold normalizeLabel NostrDoubleRatchet.DeviceLink.normalizeLabel
      rw [Option.bind_some, Option.bind_some, htrim, Collapse.replaceRuns_trim, hwords]

theorem sameWhitespace_normalizeLabel {label : Option String} (h : SameWhitespace label) :
    SameWhitespace (NostrDoubleRatchet.DeviceLink.normalizeLabel label) := by
  cases label with
  | none => exact h
  | some label =>
      intro text htext c hmem
      rw [normalizeLabel_some] at htext
      split at htext
      · cases htext
      · cases htext
        rw [String.toList_ofList] at hmem
        obtain rfl | hmem := Collapse.mem_intercalate_words (List.mem_of_mem_take hmem)
        · rfl
        · exact h label rfl c hmem

/-! Hexadecimal texts. -/

theorem isAsciiHexDigit_of_isLowerHexDigit {c : Char} (h : isLowerHexDigit c = true) :
    isAsciiHexDigit c = true := by
  unfold isLowerHexDigit at h
  unfold isAsciiHexDigit
  simp only [Bool.or_eq_true] at h ⊢
  obtain hdigit | hletter := h
  · exact .inl (.inl hdigit)
  · exact .inr hletter

/-- A text of either letter case, by the digits in lower case. -/
theorem isHex32Bytes_of_lowerHex {text : String} (hlength : (lowerHex text).toList.length = 64)
    (h : ∀ c ∈ (lowerHex text).toList, isLowerHexDigit c = true) : isHex32Bytes text = true := by
  unfold lowerHex at hlength h
  rw [String.toList_ofList] at hlength h
  unfold isHex32Bytes isHex64
  rw [Bool.and_eq_true, decide_eq_true_eq, List.all_eq_true]
  refine ⟨by rwa [List.length_map] at hlength, fun c hmem => ?_⟩
  rw [← isAsciiHexDigit_toLower]
  exact isAsciiHexDigit_of_isLowerHexDigit (h _ (List.mem_map.mpr ⟨c, hmem, rfl⟩))

theorem isHex32Bytes_of_isLowerHexDigit {text : String} (hlength : text.toList.length = 64)
    (h : ∀ c ∈ text.toList, isLowerHexDigit c = true) :
    isHex32Bytes text = true ∧ lowerHex text = text := by
  have hlower : lowerHex text = text := by
    have hmap : text.toList.map Char.toLower = text.toList :=
      (List.map_congr_left (fun c hmem =>
        (isUrlSafeChar_of_isLowerHexDigit (h c hmem)).2)).trans (List.map_id _)
    unfold lowerHex
    rw [hmap, String.ofList_toList]
  exact ⟨isHex32Bytes_of_lowerHex (hlower.symm ▸ hlength) (hlower.symm ▸ h), hlower⟩

theorem isHex32Bytes_encode {bytes : List UInt8} (h : bytes.length = 32) :
    isHex32Bytes (HexText.encode bytes) = true ∧
      lowerHex (HexText.encode bytes) = HexText.encode bytes :=
  isHex32Bytes_of_isLowerHexDigit (by rw [length_encode, h])
    (fun _ hmem => isLowerHexDigit_of_mem_encode hmem)

/-! Base64. -/

section

variable {K : Type} {codec : LinkCodec K} {fields : List (String × JsonField)}

theorem rdropWhile_padding {letters : List Char} (h : '=' ∉ letters) (padding : Nat) :
    (letters ++ List.replicate padding '=').rdropWhile (· = '=') = letters := by
  have hpadding : ∀ c ∈ (List.replicate padding '=').reverse, decide (c = '=') = true := by
    intro c hmem
    rw [List.reverse_replicate] at hmem
    exact decide_eq_true (List.eq_of_mem_replicate hmem)
  have hletters : ∀ c ∈ letters.reverse, decide (c = '=') = false := by
    intro c hmem
    rw [decide_eq_false_iff_not]
    rintro rfl
    exact h (List.mem_reverse.mp hmem)
  unfold List.rdropWhile
  rw [List.reverse_append, List.dropWhile_append_of_pos hpadding, dropWhile_of_forall hletters,
    List.reverse_reverse]

theorem base64UrlEncodeUtf8_eq (hcodec : RoundTrips codec fields) :
    base64UrlEncodeUtf8 codec (codec.jsonToString fields) =
      codec.urlSafeEncode (codec.utf8 (codec.jsonToString fields)) := by
  obtain ⟨body, padding, -, -, -, hletters, hbtoa, hurl⟩ := hcodec.alphabet
  have hmap : (body ++ List.replicate padding '=').map
      (fun c => if c = '+' then '-' else if c = '/' then '_' else c) =
        body.map urlSafeLetter ++ List.replicate padding '=' := by
    rw [List.map_append, List.map_replicate]
    rfl
  have hplain : '=' ∉ body.map urlSafeLetter := by
    intro hmem
    obtain ⟨letter, hletter, heq⟩ := List.mem_map.mp hmem
    unfold urlSafeLetter at heq
    split at heq
    · cases heq
    · split at heq
      · cases heq
      · rw [heq] at hletter
        have := hletters '=' hletter
        revert this
        decide
  unfold base64UrlEncodeUtf8
  rw [hbtoa, hurl, String.toList_ofList, hmap]
  exact congrArg String.ofList (rdropWhile_padding hplain padding)

theorem base64UrlDecodeUtf8_eq (hcodec : RoundTrips codec fields) :
    base64UrlDecodeUtf8 codec (codec.urlSafeEncode (codec.utf8 (codec.jsonToString fields))) =
      some (codec.jsonToString fields) := by
  obtain ⟨body, padding, -, hpadding, hlength, hletters, hbtoa, hurl⟩ := hcodec.alphabet
  have hmap : (body.map urlSafeLetter).map
      (fun c => if c = '-' then '+' else if c = '_' then '/' else c) = body := by
    rw [List.map_map]
    refine (List.map_congr_left (fun c hmem => ?_)).trans (List.map_id _)
    dsimp only [Function.comp, id]
    obtain hletter | rfl | rfl := hletters c hmem
    · have hne : c ≠ '+' ∧ c ≠ '/' ∧ c ≠ '-' ∧ c ≠ '_' := by
        refine ⟨?_, ?_, ?_, ?_⟩ <;>
        · rintro rfl
          revert hletter
          decide
      obtain ⟨hplus, hslash, hminus, hunder⟩ := hne
      unfold urlSafeLetter
      rw [if_neg hplus, if_neg hslash, if_neg hminus, if_neg hunder]
    · rfl
    · rfl
  unfold base64UrlDecodeUtf8
  rw [hurl, String.toList_ofList, hmap]
  have hcount : (body.length + 3) / 4 * 4 - body.length = padding := by omega
  dsimp only
  rw [hcount, ← hbtoa, hcodec.atob, Option.map_some, hcodec.utf8]

theorem decodeDeviceLinkMetadata_urlSafeEncode (metadata : CompactDeviceLinkMetadata)
    (hv : metadata.v = 1)
    (htime : ∀ time, metadata.requestedAt = some time → time ≤ maxSafeInteger)
    (hcodec : RoundTrips codec (metadataFields metadata))
    (hsafe : ∀ c ∈ (codec.urlSafeEncode (codec.utf8 (codec.jsonToString
      (metadataFields metadata)))).toList, isUrlSafeChar c = true) :
    decodeDeviceLinkMetadata codec (codec.urlSafeEncode (codec.utf8 (codec.jsonToString
      (metadataFields metadata)))) =
        some ⟨1, metadata.requestedAt, normalizeLabel metadata.deviceLabel,
          normalizeLabel metadata.clientLabel⟩ := by
  have hne : (codec.urlSafeEncode (codec.utf8 (codec.jsonToString
      (metadataFields metadata)))).toList ≠ [] := by
    obtain ⟨body, padding, hbody, -, -, -, -, hurl⟩ := hcodec.alphabet
    rw [hurl, String.toList_ofList]
    simpa using hbody
  have hrejected : ¬ ((codec.urlSafeEncode (codec.utf8 (codec.jsonToString
      (metadataFields metadata)))).toList = [] ∨ ¬ (codec.urlSafeEncode (codec.utf8
        (codec.jsonToString (metadataFields metadata)))).toList.all isUrlSafeChar = true) := by
    rintro (hempty | hother)
    · exact hne hempty
    · exact hother (List.all_eq_true.mpr hsafe)
  unfold decodeDeviceLinkMetadata
  rw [if_neg hrejected, base64UrlDecodeUtf8_eq hcodec, Option.bind_some, hcodec.jsonParse]
  obtain ⟨v, requestedAt, deviceLabel, clientLabel⟩ := metadata
  cases hv
  cases requestedAt with
  | none =>
      cases deviceLabel <;> cases clientLabel <;>
        simp [metadataFields, lastField]
  | some time =>
      have hround : JsNumber.roundToDouble time = some time := by
        have hsmall := htime time rfl
        have hmax : maxSafeInteger < 2 ^ 53 := by decide
        exact if_pos (by omega)
      cases deviceLabel <;> cases clientLabel <;>
        simp [metadataFields, lastField, hround]

theorem encodeDeviceLinkMetadata_eq {deviceLabel clientLabel : Option String}
    {requestedAt : Option Nat} (hdevice : SameWhitespace deviceLabel)
    (hclient : SameWhitespace clientLabel)
    (hcodec : RoundTrips codec
      (metadataFields (writtenMetadata deviceLabel clientLabel requestedAt))) :
    encodeDeviceLinkMetadata codec (requestedAt.map Int.ofNat) deviceLabel clientLabel =
      codec.urlSafeEncode (codec.utf8 (codec.jsonToString
        (metadataFields (writtenMetadata deviceLabel clientLabel requestedAt)))) := by
  have htime : ((requestedAt.map Int.ofNat).filter (0 ≤ ·)).map Int.toNat = requestedAt := by
    cases requestedAt with
    | none => rfl
    | some time => simp
  unfold encodeDeviceLinkMetadata
  dsimp only
  rw [htime, normalizeLabel_eq hdevice, normalizeLabel_eq hclient]
  exact base64UrlEncodeUtf8_eq hcodec

/-- The secret may be given as the text that the other client accepts, without its padding. -/
theorem encodeCompactDeviceLinkRequest_eq (hkeys : KeyLaws codec) {secret : String}
    {bytes : List UInt8} (hsecret : parseSecretHex codec secret = .ok bytes) (key : K)
    {deviceLabel clientLabel : Option String} {requestedAt : Option Nat}
    (hdevice : SameWhitespace deviceLabel) (hclient : SameWhitespace clientLabel)
    (hcodec : RoundTrips codec
      (metadataFields (writtenMetadata deviceLabel clientLabel requestedAt))) :
    encodeCompactDeviceLinkRequest codec ⟨codec.toHex key, some (trim secret), none,
        requestedAt.map Int.ofNat, deviceLabel, clientLabel⟩ =
      .ok (codec.toHex key ++ "." ++ HexText.encode bytes ++ "." ++
        codec.urlSafeEncode (codec.utf8 (codec.jsonToString
          (metadataFields (writtenMetadata deviceLabel clientLabel requestedAt))))) := by
  obtain ⟨-, -, hlength, hencode⟩ := parseSecretHex_encode hsecret
  obtain ⟨hkeyHex, hkeyLower⟩ := isHex32Bytes_of_isLowerHexDigit (hkeys.length key)
    (hkeys.digits key)
  have hlower : lowerHex (trim secret) = HexText.encode bytes := hencode.symm
  have hsecretHex : isHex32Bytes (trim secret) = true := by
    apply isHex32Bytes_of_lowerHex
    · rw [hlower, length_encode, hlength]
    · rw [hlower]
      exact fun c hmem => isLowerHexDigit_of_mem_encode hmem
  have hpresent : truthy (some (trim secret)) = some (trim secret) := by
    apply truthy_of_ne
    intro hempty
    rw [Option.some.inj hempty] at hsecretHex
    revert hsecretHex
    decide
  unfold encodeCompactDeviceLinkRequest
  dsimp only
  rw [hpresent]
  dsimp only
  rw [if_neg (by simp [hkeyHex, hsecretHex]), hkeyLower, hlower,
    encodeDeviceLinkMetadata_eq hdevice hclient hcodec]

theorem jsTrim_of_forall {text : String} (h : ∀ c ∈ text.toList, isJsWhitespace c = false) :
    jsTrim text = text := by
  unfold jsTrim
  rw [dropWhile_of_forall h, dropWhile_of_forall (fun c hmem => h c (List.mem_reverse.mp hmem)),
    List.reverse_reverse, String.ofList_toList]

theorem isJsWhitespace_of_isUrlSafeChar {c : Char} (h : isUrlSafeChar c = true ∨ c = '.') :
    isJsWhitespace c = false := by
  obtain hsafe | rfl := h
  · have hrange := toNat_of_isUrlSafeChar hsafe
    unfold isJsWhitespace
    simp only [Bool.or_eq_false_iff, Bool.and_eq_false_iff, decide_eq_false_iff_not]
    omega
  · rfl

theorem parseCompactDeviceLinkRequest_eq (hkeys : KeyLaws codec) {bytes : List UInt8}
    {requestPubkey : K} (hlength : bytes.length = 32)
    (hpublic : codec.publicKey bytes = .ok requestPubkey) (key : K)
    {fields : List (String × JsonField)} {metadata : CompactDeviceLinkMetadata} (hcodec : RoundTrips codec fields)
    (hmetadata : decodeDeviceLinkMetadata codec
      (codec.urlSafeEncode (codec.utf8 (codec.jsonToString fields))) = some metadata)
    (currentUnixSeconds : Nat) :
    parseCompactDeviceLinkRequest codec currentUnixSeconds
        (codec.toHex key ++ "." ++ HexText.encode bytes ++ "." ++
          codec.urlSafeEncode (codec.utf8 (codec.jsonToString fields))) =
      some ⟨codec.toHex requestPubkey, codec.toHex key, HexText.encode bytes,
        metadata.requestedAt.getD currentUnixSeconds, metadata.deviceLabel,
        metadata.clientLabel⟩ := by
  have hparts := isUrlSafeChar_of_mem_parts hkeys key bytes hcodec
  obtain ⟨hkeyHex, hkeyLower⟩ := isHex32Bytes_of_isLowerHexDigit (hkeys.length key)
    (hkeys.digits key)
  obtain ⟨hbytesHex, hbytesLower⟩ := isHex32Bytes_encode hlength
  have htrim : jsTrim (codec.toHex key ++ "." ++ HexText.encode bytes ++ "." ++
      codec.urlSafeEncode (codec.utf8 (codec.jsonToString fields))) = _ :=
    jsTrim_of_forall (fun c hmem => isJsWhitespace_of_isUrlSafeChar (mem_code hparts hmem))
  unfold parseCompactDeviceLinkRequest
  rw [htrim, toList_code, splitOn_code hparts (List.cons_ne_nil _ _)]
  dsimp only
  rw [if_neg (by simp [hkeyHex, hbytesHex]), hmetadata, HexText.decode_encode, hkeyLower,
    hbytesLower]
  change ((codec.publicKey bytes).toOption >>= fun requestPubkey => pure _) = _
  rw [hpublic]
  rfl

/-- A code is read back by either client, and written again as it was, when no label is cut right
after a space. -/
theorem device_link_code (hkeys : KeyLaws codec) {secret : String} {bytes : List UInt8}
    (hsecret : parseSecretHex codec secret = .ok bytes) (key : K)
    (deviceLabel clientLabel : Option String) (requestedAt : Option Nat)
    (htime : ∀ time, requestedAt = some time → time ≤ u64Max)
    (hdevice : CutClean deviceLabel) (hclient : CutClean clientLabel)
    (hcodec : RoundTrips codec
      (metadataFields (writtenMetadata deviceLabel clientLabel requestedAt))) :
    ∃ code requestPubkey,
      NostrDoubleRatchet.DeviceLink.encodeCompactDeviceLinkRequest codec key secret deviceLabel
        clientLabel requestedAt = .ok code ∧
      codec.publicKey bytes = .ok requestPubkey ∧
      NostrDoubleRatchet.DeviceLink.parseCompactDeviceLinkRequest codec code =
        .ok ⟨requestPubkey, key, HexText.encode bytes, requestedAt,
          NostrDoubleRatchet.DeviceLink.normalizeLabel deviceLabel,
          NostrDoubleRatchet.DeviceLink.normalizeLabel clientLabel⟩ ∧
      NostrDoubleRatchet.DeviceLink.encodeCompactDeviceLinkRequest codec key
        (HexText.encode bytes) (NostrDoubleRatchet.DeviceLink.normalizeLabel deviceLabel)
        (NostrDoubleRatchet.DeviceLink.normalizeLabel clientLabel) requestedAt = .ok code ∧
      (SameWhitespace deviceLabel → SameWhitespace clientLabel →
        (∀ time, requestedAt = some time → time ≤ maxSafeInteger) →
        encodeCompactDeviceLinkRequest codec ⟨codec.toHex key, some (trim secret), none,
          requestedAt.map Int.ofNat, deviceLabel, clientLabel⟩ = .ok code ∧
        ∀ currentUnixSeconds,
          parseCompactDeviceLinkRequest codec currentUnixSeconds code =
            some ⟨codec.toHex requestPubkey, codec.toHex key, HexText.encode bytes,
              requestedAt.getD currentUnixSeconds,
              NostrDoubleRatchet.DeviceLink.normalizeLabel deviceLabel,
              NostrDoubleRatchet.DeviceLink.normalizeLabel clientLabel⟩) := by
  have hdevice' := (normalizeLabel_normalizeLabel_iff deviceLabel).mpr hdevice
  have hclient' := (normalizeLabel_normalizeLabel_iff clientLabel).mpr hclient
  obtain ⟨code, requestPubkey, hencode, hpublic, hparse⟩ :=
    parse_encode hkeys hsecret key deviceLabel clientLabel htime hcodec
  obtain ⟨hagain, -, hlength, -⟩ := parseSecretHex_encode hsecret
  have hcode := hencode
  rw [NostrDoubleRatchet.DeviceLink.encodeCompactDeviceLinkRequest_eq hsecret] at hcode
  cases hcode
  rw [hdevice', hclient'] at hparse
  refine ⟨_, requestPubkey, hencode, hpublic, hparse, ?_, ?_⟩
  · rw [NostrDoubleRatchet.DeviceLink.encodeCompactDeviceLinkRequest_eq hagain]
    unfold writtenMetadata
    rw [hdevice', hclient']
  · intro hdeviceSame hclientSame hsafe
    refine ⟨encodeCompactDeviceLinkRequest_eq hkeys hsecret key hdeviceSame hclientSame hcodec,
      fun currentUnixSeconds => ?_⟩
    have hdecode := decodeDeviceLinkMetadata_urlSafeEncode
      (writtenMetadata deviceLabel clientLabel requestedAt) rfl hsafe hcodec
      (isUrlSafeChar_of_mem_parts hkeys key bytes hcodec _ (by simp))
    rw [parseCompactDeviceLinkRequest_eq hkeys hlength hpublic key hcodec hdecode]
    unfold writtenMetadata
    dsimp only
    rw [normalizeLabel_eq (sameWhitespace_normalizeLabel hdeviceSame),
      normalizeLabel_eq (sameWhitespace_normalizeLabel hclientSame), hdevice', hclient']

end

/-! Codes of ASCII texts. -/

namespace AsciiCode

def letter (n : Nat) : Char :=
  if n < 26 then Char.ofNat (n + 65)
  else if n < 52 then Char.ofNat (n + 71)
  else if n < 62 then Char.ofNat (n - 4)
  else if n = 62 then '+' else '/'

/-- Three bytes are four letters. -/
def letters : List UInt8 → List Char
  | first :: second :: third :: rest =>
      let n := (first.toNat * 256 + second.toNat) * 256 + third.toNat
      [letter (n / 262144), letter (n / 4096 % 64), letter (n / 64 % 64), letter (n % 64)] ++
        letters rest
  | [first, second] =>
      let n := (first.toNat * 256 + second.toNat) * 4
      [letter (n / 4096), letter (n / 64 % 64), letter (n % 64)]
  | [first] =>
      let n := first.toNat * 16
      [letter (n / 64), letter (n % 64)]
  | [] => []

def padding (bytes : List UInt8) : Nat := (3 - bytes.length % 3) % 3

def bytesOf (text : String) : List UInt8 := text.toList.map (fun c => UInt8.ofNat c.toNat)

def fieldText : JsonField → String
  | .string text => "\"" ++ text ++ "\""
  | .number (some value) => toString value
  | .number none => "-1"
  | .null => "null"
  | .other => "[]"

/-- The object of fields that need no escapes. -/
def objectText (fields : List (String × JsonField)) : String :=
  "\x7b" ++ String.intercalate "," (fields.map (fun field =>
    "\"" ++ field.1 ++ "\":" ++ fieldText field.2)) ++ "\x7d"

/-- Sixteen keys, and one object that is read back. -/
def codec (fields : List (String × JsonField)) : LinkCodec (Fin 16) where
  parsePublicKey text :=
    match (text.toList.head?).bind HexText.value with
    | some n => .ok (Fin.ofNat 16 n)
    | none => .error "invalid public key"
  toHex key := String.ofList (List.replicate 64 (HexText.digit key.val))
  publicKey bytes :=
    match bytes with
    | [] => .error "invalid secret key"
    | first :: _ => .ok (Fin.ofNat 16 first.toNat)
  hexError _ := "invalid character"
  utf8 := bytesOf
  utf8Decode bytes := String.ofList (bytes.map (fun byte => Char.ofNat byte.toNat))
  jsonToString := objectText
  jsonFromSlice bytes :=
    if bytes = bytesOf (objectText fields) then .ok (.object fields) else .error "invalid json"
  jsonError _ := "invalid metadata"
  jsonParse text := if text = objectText fields then some (.object fields) else none
  urlSafeEncode bytes := String.ofList ((letters bytes).map urlSafeLetter)
  urlSafeDecode text :=
    if text = String.ofList ((letters (bytesOf (objectText fields))).map urlSafeLetter) then
      .ok (bytesOf (objectText fields))
    else .error "invalid base64"
  btoa bytes := String.ofList (letters bytes ++ List.replicate (padding bytes) '=')
  atob text :=
    if text = String.ofList (letters (bytesOf (objectText fields)) ++
        List.replicate (padding (bytesOf (objectText fields))) '=') then
      some (bytesOf (objectText fields))
    else none

theorem keyLaws (fields : List (String × JsonField)) : KeyLaws (codec fields) where
  parse key := by
    have hall : ∀ key : Fin 16, HexText.value (HexText.digit key.val) = some key.val := by decide
    unfold codec
    dsimp only
    rw [String.toList_ofList, List.head?_replicate, if_neg (by decide), Option.bind_some, hall key]
    exact congrArg Except.ok (Fin.ofNat_val_eq_self key)
  length key := by
    change (String.ofList (List.replicate 64 (HexText.digit key.val))).toList.length = 64
    rw [String.toList_ofList, List.length_replicate]
  digits key c hmem := by
    have hall : ∀ key : Fin 16, isLowerHexDigit (HexText.digit key.val) = true := by decide
    change c ∈ (String.ofList (List.replicate 64 (HexText.digit key.val))).toList at hmem
    rw [String.toList_ofList] at hmem
    rw [List.eq_of_mem_replicate hmem]
    exact hall key

theorem letter_mem {n : Nat} (h : n < 64) :
    (letter n).isAlphanum = true ∨ letter n = '+' ∨ letter n = '/' := by
  have hall : ∀ n : Fin 64, (letter n.val).isAlphanum = true ∨ letter n.val = '+' ∨
      letter n.val = '/' := by decide +kernel
  exact hall ⟨n, h⟩

theorem letters_spec (bytes : List UInt8) :
    ((letters bytes).length + padding bytes) % 4 = 0 ∧ (bytes ≠ [] → letters bytes ≠ []) ∧
      ∀ c ∈ letters bytes, c.isAlphanum = true ∨ c = '+' ∨ c = '/' := by
  induction bytes using letters.induct with
  | case1 first second third rest ih =>
      have h1 : first.toNat < 256 := first.toNat_lt
      have h2 : second.toNat < 256 := second.toNat_lt
      have h3 : third.toNat < 256 := third.toNat_lt
      obtain ⟨hlength, -, hall⟩ := ih
      rw [letters]
      refine ⟨?_, fun _ => List.cons_ne_nil _ _, ?_⟩
      · unfold padding at hlength ⊢
        simp only [List.length_append, List.length_cons, List.length_nil]
        omega
      · intro c hmem
        obtain hmem | hmem := List.mem_append.mp hmem
        · simp only [List.mem_cons, List.not_mem_nil, or_false] at hmem
          obtain rfl | rfl | rfl | rfl := hmem
          all_goals exact letter_mem (by omega)
        · exact hall c hmem
  | case2 first second =>
      have h1 : first.toNat < 256 := first.toNat_lt
      have h2 : second.toNat < 256 := second.toNat_lt
      rw [letters]
      refine ⟨by simp [padding], fun _ => List.cons_ne_nil _ _, ?_⟩
      intro c hmem
      simp only [List.mem_cons, List.not_mem_nil, or_false] at hmem
      obtain rfl | rfl | rfl := hmem
      all_goals exact letter_mem (by omega)
  | case3 first =>
      have h1 : first.toNat < 256 := first.toNat_lt
      rw [letters]
      refine ⟨by simp [padding], fun _ => List.cons_ne_nil _ _, ?_⟩
      intro c hmem
      simp only [List.mem_cons, List.not_mem_nil, or_false] at hmem
      obtain rfl | rfl := hmem
      all_goals exact letter_mem (by omega)
  | case4 => exact ⟨rfl, fun h => absurd rfl h, fun c hmem => absurd hmem List.not_mem_nil⟩

theorem roundTrips {fields : List (String × JsonField)}
    (hascii : (objectText fields).toList.all (fun c => c.toNat < 256) = true)
    (hne : (objectText fields).toList ≠ []) : RoundTrips (codec fields) fields where
  jsonFromSlice := by
    unfold codec
    dsimp only
    rw [if_pos rfl]
  jsonParse := by
    unfold codec
    dsimp only
    rw [if_pos rfl]
  utf8 := by
    change String.ofList (List.map (fun byte : UInt8 => Char.ofNat byte.toNat)
      ((objectText fields).toList.map (fun c => UInt8.ofNat c.toNat))) = objectText fields
    rw [List.map_map]
    have hmap : (objectText fields).toList.map ((fun byte : UInt8 => Char.ofNat byte.toNat) ∘
        fun c => UInt8.ofNat c.toNat) = (objectText fields).toList := by
      refine (List.map_congr_left (fun c hmem => ?_)).trans (List.map_id _)
      dsimp only [Function.comp, id]
      rw [UInt8.toNat_ofNat', Nat.mod_eq_of_lt (of_decide_eq_true (List.all_eq_true.mp hascii c hmem)),
        Char.ofNat_toNat]
    rw [hmap, String.ofList_toList]
  urlSafeDecode := by
    unfold codec
    dsimp only
    rw [if_pos rfl]
  atob := by
    unfold codec
    dsimp only
    rw [if_pos rfl]
  alphabet := by
    obtain ⟨hlength, hletters, hall⟩ := letters_spec (bytesOf (objectText fields))
    refine ⟨letters (bytesOf (objectText fields)), padding (bytesOf (objectText fields)), ?_, ?_,
      hlength, hall, rfl, rfl⟩
    · apply hletters
      unfold bytesOf
      simpa using hne
    · unfold padding
      omega

/-- The bytes of a secret. -/
def ones : List UInt8 := List.replicate 32 1

theorem parseSecretHex_ones (fields : List (String × JsonField)) :
    parseSecretHex (codec fields) (HexText.encode ones) = .ok ones := by
  unfold parseSecretHex
  rw [trim_lower (fun c hmem => isLowerHexDigit_of_mem_encode hmem)]
  dsimp only
  rw [HexText.decode_encode]
  have hsize : (HexText.encode ones).utf8ByteSize = 64 := by decide +kernel
  unfold NostrDoubleRatchet.DeviceLink.ensure
  rw [if_pos hsize]
  rfl

/-- Two labels and a time. -/
theorem phone_code : CutClean (some " my  phone ") ∧
    ∃ code, NostrDoubleRatchet.DeviceLink.encodeCompactDeviceLinkRequest
      (codec (metadataFields (writtenMetadata (some " my  phone ") (some "chat") (some 41)))) 3
      (HexText.encode ones) (some " my  phone ") (some "chat") (some 41) =
        .ok code := by
  have hclean : ∀ label : String, (collapsed label).length ≤ 96 → CutClean (some label) := by
    intro label hlength text htext hlong
    cases htext
    omega
  have hphone : CutClean (some " my  phone ") := hclean _ (by decide +kernel)
  have hsecret := parseSecretHex_ones (metadataFields (writtenMetadata (some " my  phone ")
    (some "chat") (some 41)))
  obtain ⟨code, -, hcode, -⟩ := device_link_code (keyLaws _) hsecret 3 (some " my  phone ")
    (some "chat") (some 41) (by decide) hphone (hclean "chat" (by decide +kernel))
    (roundTrips (by decide +kernel) (by decide +kernel))
  exact ⟨hphone, code, hcode⟩

/-- A code without a time is read as one without by one client and as one of the present by the
other. -/
theorem missing_time_is_now :
    ∃ code,
      NostrDoubleRatchet.DeviceLink.encodeCompactDeviceLinkRequest
        (codec (metadataFields (writtenMetadata none none none))) 3 (HexText.encode ones) none
        none none = .ok code ∧
      (∃ request, NostrDoubleRatchet.DeviceLink.parseCompactDeviceLinkRequest
        (codec (metadataFields (writtenMetadata none none none))) code = .ok request ∧
          request.requestedAt = none) ∧
      ∃ request, parseCompactDeviceLinkRequest
        (codec (metadataFields (writtenMetadata none none none))) 7 code = some request ∧
          request.requestedAt = 7 := by
  have hsecret := parseSecretHex_ones (metadataFields (writtenMetadata none none none))
  have hcodec : RoundTrips (codec (metadataFields (writtenMetadata none none none))) _ :=
    roundTrips (by decide +kernel) (by decide +kernel)
  have hkeys := keyLaws (metadataFields (writtenMetadata none none none))
  have htime : ∀ time, (none : Option Nat) = some time → time ≤ u64Max :=
    fun _ h => by cases h
  obtain ⟨code, requestPubkey, hencode, hpublic, hparse⟩ :=
    parse_encode hkeys hsecret 3 none none htime hcodec
  have hcode := hencode
  rw [NostrDoubleRatchet.DeviceLink.encodeCompactDeviceLinkRequest_eq hsecret] at hcode
  cases hcode
  have hdecode := decodeDeviceLinkMetadata_urlSafeEncode (writtenMetadata none none none) rfl
    (fun _ h => by cases h) hcodec (isUrlSafeChar_of_mem_parts hkeys 3 ones hcodec _ (by simp))
  exact ⟨_, hencode, ⟨_, hparse, rfl⟩, _,
    parseCompactDeviceLinkRequest_eq hkeys rfl hpublic 3 hcodec hdecode 7, rfl⟩

/-- A label of 95 letters, a space and one more letter loses the space when it is read. -/
theorem label_cut_after_space :
    ¬ CutClean (some (String.ofList (List.replicate 95 'a' ++ [' ', 'b']))) := by
  intro hclean
  have hcut := hclean _ rfl
  unfold collapsed at hcut
  rw [String.toList_ofList] at hcut
  revert hcut
  decide +kernel

end AsciiCode

end NostrDoubleRatchet.TypeScript.DeviceLink
