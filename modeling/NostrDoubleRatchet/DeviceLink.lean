import NostrDoubleRatchet.Lib.Collapse
import NostrDoubleRatchet.Lib.HexText
import NostrDoubleRatchet.Text

/-!
The code that a new device shows to be linked, as in `device_link.rs`: the device's key, the
secret of the request and, as a JSON object in base64, a time and two labels. Labels are
normalised when a code is written and once more when it is read.
-/

namespace NostrDoubleRatchet.DeviceLink

/-- The fields of a JSON object as either client looks at them. A number is known as far as it
is a non-negative integer. -/
inductive JsonField where
  | string (text : String)
  | number (value : Option Nat)
  | null
  | other
  deriving DecidableEq

/-- Fields in the order of the text, repeated names included. -/
inductive JsonValue where
  | object (fields : List (String × JsonField))
  | other

/-- What `nostr`, `hex`, `serde_json` and `base64` do for a code, and `btoa`, `atob`, `JSON` and
the text coders for the other client. Both write an object of texts and integers alike. -/
structure LinkCodec (K : Type) where
  parsePublicKey : String → Except String K
  toHex : K → String
  publicKey : List UInt8 → Except String K
  hexError : String → String
  utf8 : String → List UInt8
  utf8Decode : List UInt8 → String
  jsonToString : List (String × JsonField) → String
  jsonFromSlice : List UInt8 → Except String JsonValue
  jsonError : List UInt8 → String
  jsonParse : String → Option JsonValue
  urlSafeEncode : List UInt8 → String
  urlSafeDecode : String → Except String (List UInt8)
  btoa : List UInt8 → String
  atob : String → Option (List UInt8)

structure DeviceLinkRequest (K : Type) where
  requestPubkey : K
  deviceAppKeyPubkey : K
  requestSecret : String
  requestedAt : Option Nat
  deviceLabel : Option String
  clientLabel : Option String
  deriving DecidableEq

structure CompactDeviceLinkMetadata where
  v : Nat
  requestedAt : Option Nat
  deviceLabel : Option String
  clientLabel : Option String
  deriving DecidableEq

def normalizeLabel (label : Option String) : Option String :=
  label.bind (fun label =>
    let normalized := [' '].intercalate (Collapse.words isWhitespace label.toList)
    if normalized = [] then none else some (String.ofList (normalized.take 96)))

/-- The fields as they are written; those without a value are left out. -/
def metadataFields (metadata : CompactDeviceLinkMetadata) : List (String × JsonField) :=
  [("v", .number (some metadata.v))] ++
    (metadata.requestedAt.map (fun time => ("requestedAt", .number (some time)))).toList ++
    (metadata.deviceLabel.map (fun label => ("deviceLabel", .string label))).toList ++
    (metadata.clientLabel.map (fun label => ("clientLabel", .string label))).toList

/-- A field that must not stand twice. -/
def fieldOf (fields : List (String × JsonField)) (name : String) : Option (Option JsonField) :=
  match fields.filter (fun field => field.1 = name) with
  | [] => some none
  | [field] => some (some field.2)
  | _ => none

def optionalU64 : Option JsonField → Option (Option Nat)
  | none | some .null => some none
  | some (.number (some value)) => if value ≤ u64Max then some (some value) else none
  | _ => none

def optionalString : Option JsonField → Option (Option String)
  | none | some .null => some none
  | some (.string text) => some (some text)
  | _ => none

def deserializeMetadata : JsonValue → Option CompactDeviceLinkMetadata
  | .other => none
  | .object fields => do
      let v ← fieldOf fields "v"
      let v ← (match v with
        | some (.number (some v)) => if v ≤ 255 then some v else none
        | _ => none)
      let requestedAt ← optionalU64 (← fieldOf fields "requestedAt")
      let deviceLabel ← optionalString (← fieldOf fields "deviceLabel")
      let clientLabel ← optionalString (← fieldOf fields "clientLabel")
      pure ⟨v, requestedAt, deviceLabel, clientLabel⟩

def ensure (condition : Prop) [Decidable condition] (error : Error) : Except Error Unit :=
  if condition then .ok () else .error error

section

variable {K : Type} (codec : LinkCodec K)

def parseSecretHex (secret : String) : Except Error (List UInt8) := do
  let secret := String.ofList ((trim secret).toList.map Char.toLower)
  ensure (secret.utf8ByteSize = 64) (Error.parse "Device link secret must be 32 bytes")
  let bytes ← (match HexText.decode secret with
    | none => .error (.hex (codec.hexError secret))
    | some bytes => .ok bytes)
  ensure (bytes.length = 32) (Error.parse "Device link secret must be 32 bytes")
  let _ ← (codec.publicKey bytes).mapError Error.nostrKey
  pure bytes

def encodeCompactDeviceLinkRequest (deviceAppKeyPubkey : K) (requestSecret : String)
    (deviceLabel clientLabel : Option String) (requestedAt : Option Nat) :
    Except Error String := do
  let secret ← parseSecretHex codec requestSecret
  let metadata : CompactDeviceLinkMetadata :=
    ⟨1, requestedAt, normalizeLabel deviceLabel, normalizeLabel clientLabel⟩
  let metadata := codec.urlSafeEncode (codec.utf8 (codec.jsonToString (metadataFields metadata)))
  pure (codec.toHex deviceAppKeyPubkey ++ "." ++ HexText.encode secret ++ "." ++ metadata)

/-- The bytes of the alphabet are all ASCII, so bytes are characters here. -/
def isUrlSafeChar (c : Char) : Bool := c.isAlphanum || c = '-' || c = '_'

def parseDeviceLinkMetadata (input : String) : Except Error CompactDeviceLinkMetadata := do
  ensure (input.toList ≠ [] ∧ input.toList.all isUrlSafeChar)
    (Error.parse "Invalid device link metadata")
  let bytes ← (codec.urlSafeDecode input).mapError
    (fun error => Error.parse s!"Invalid device link metadata: {error}")
  let value ← (codec.jsonFromSlice bytes).mapError Error.json
  let metadata ← (match deserializeMetadata value with
    | none => .error (.json (codec.jsonError bytes))
    | some metadata => .ok metadata)
  ensure (metadata.v = 1) (Error.parse "Unsupported device link metadata")
  pure ⟨1, metadata.requestedAt, normalizeLabel metadata.deviceLabel,
    normalizeLabel metadata.clientLabel⟩

def parseCompactDeviceLinkRequest (input : String) : Except Error (DeviceLinkRequest K) :=
  match ((trim input).toList.splitOn '.').map String.ofList with
  | [] => .error (.parse "Missing device app key pubkey")
  | [_] => .error (.parse "Missing device link secret")
  | [_, _] => .error (.parse "Missing device link metadata")
  | [deviceAppKeyPubkey, requestSecret, metadata] => do
      let deviceAppKeyPubkey ← (codec.parsePublicKey deviceAppKeyPubkey).mapError
        (fun error => Error.parse s!"Invalid device app key pubkey: {error}")
      let requestSecretBytes ← parseSecretHex codec requestSecret
      let metadata ← parseDeviceLinkMetadata codec metadata
      let requestPubkey ← (codec.publicKey requestSecretBytes).mapError Error.nostrKey
      pure ⟨requestPubkey, deviceAppKeyPubkey, HexText.encode requestSecretBytes,
        metadata.requestedAt, metadata.deviceLabel, metadata.clientLabel⟩
  | _ => .error (.parse "Invalid compact device link request")

end

/-! Labels. -/

/-- The label with single spaces, before it is cut. -/
def collapsed (label : String) : List Char :=
  [' '].intercalate (Collapse.words isWhitespace label.toList)

/-- The label is not cut right after a space. -/
def CutClean (label : Option String) : Prop :=
  ∀ text, label = some text → 96 < (collapsed text).length → (collapsed text)[95]? ≠ some ' '

theorem collapsed_collapsed (label : String) :
    Collapse.Collapsed isWhitespace ' ' (collapsed label) := by
  unfold collapsed
  rw [← Collapse.replaceRuns_trim]
  exact Collapse.collapsed_replaceRuns_trim (by decide) label.toList

theorem normalizeLabel_some (label : String) :
    normalizeLabel (some label) =
      if collapsed label = [] then none
      else some (String.ofList ((collapsed label).take 96)) := rfl

/-- A label that is normalised once more stays as it is exactly when its first cut was clean. -/
theorem normalizeLabel_normalizeLabel_iff (label : Option String) :
    normalizeLabel (normalizeLabel label) = normalizeLabel label ↔ CutClean label := by
  cases label with
  | none =>
      refine ⟨fun _ text h => ?_, fun _ => rfl⟩
      cases h
  | some label =>
      have hcollapsed := collapsed_collapsed label
      have hagain : ∀ chars : List Char, collapsed (String.ofList chars) =
          Collapse.replaceRuns isWhitespace ' ' false (Collapse.trim isWhitespace chars) := by
        intro chars
        unfold collapsed
        rw [String.toList_ofList, Collapse.replaceRuns_trim]
      have hclean : CutClean (some label) ↔
          (96 < (collapsed label).length → ∀ item, (collapsed label)[96 - 1]? = some item →
            isWhitespace item = false) := by
        constructor
        · intro hclean hlength item hitem
          by_contra hwhite
          have hmem := List.mem_of_getElem? hitem
          rw [hcollapsed.only item hmem (by simpa using hwhite)] at hitem
          exact hclean label rfl hlength hitem
        · rintro hcut text htext hlength hspace
          cases htext
          have hwhite := hcut hlength ' ' hspace
          revert hwhite
          decide
      rw [hclean, ← hcollapsed.replaceRuns_trim_take_iff (by decide), normalizeLabel_some]
      by_cases hempty : collapsed label = []
      · rw [if_pos hempty, hempty]
        exact ⟨fun _ => rfl, fun _ => rfl⟩
      · rw [if_neg hempty, normalizeLabel_some, hagain]
        have htake : (collapsed label).take 96 ≠ [] := by
          simpa using hempty
        constructor
        · intro heq
          split at heq
          · cases heq
          · have hchars := String.ofList_injective (Option.some.inj heq)
            have hlength := Collapse.length_replaceRuns_trim_le isWhitespace ' '
              ((collapsed label).take 96)
            rwa [List.take_of_length_le] at hchars
            exact hlength.trans (List.length_take_le _ _)
        · intro heq
          rw [heq, if_neg htake, List.take_take, min_self]

/-! The texts of a code. -/

def isLowerHexDigit (c : Char) : Bool := c.isDigit || (0x61 ≤ c.toNat && c.toNat ≤ 0x66)

theorem toNat_of_isUrlSafeChar {c : Char} (h : isUrlSafeChar c = true) :
    c.toNat = 45 ∨ c.toNat = 95 ∨ (48 ≤ c.toNat ∧ c.toNat ≤ 57) ∨
      (65 ≤ c.toNat ∧ c.toNat ≤ 90) ∨ (97 ≤ c.toNat ∧ c.toNat ≤ 122) := by
  unfold isUrlSafeChar at h
  simp only [Bool.or_eq_true, decide_eq_true_eq] at h
  obtain (halphanum | rfl) | rfl := h
  · delta Char.isAlphanum Char.isAlpha Char.isUpper Char.isLower Char.isDigit at halphanum
    simp only [Bool.or_eq_true, Bool.and_eq_true, decide_eq_true_eq, UInt32.le_iff_toNat_le,
      ge_iff_le] at halphanum
    have hval : c.toNat = c.val.toNat := rfl
    have hA : 'A'.val.toNat = 65 := rfl
    have hZ : 'Z'.val.toNat = 90 := rfl
    have ha : 'a'.val.toNat = 97 := rfl
    have hz : 'z'.val.toNat = 122 := rfl
    have h0 : '0'.val.toNat = 48 := rfl
    have h9 : '9'.val.toNat = 57 := rfl
    omega
  · exact .inl rfl
  · exact .inr (.inl rfl)

theorem isWhitespace_of_isUrlSafeChar {c : Char} (h : isUrlSafeChar c = true) :
    isWhitespace c = false := by
  have hrange := toNat_of_isUrlSafeChar h
  unfold isWhitespace
  simp only [Bool.or_eq_false_iff, Bool.and_eq_false_iff, decide_eq_false_iff_not]
  omega

theorem isUrlSafeChar_of_isLowerHexDigit {c : Char} (h : isLowerHexDigit c = true) :
    isUrlSafeChar c = true ∧ c.toLower = c := by
  unfold isLowerHexDigit at h
  simp only [Bool.or_eq_true, Bool.and_eq_true, decide_eq_true_eq, Char.isDigit_iff_toNat] at h
  have h0 : '0'.toNat = 48 := rfl
  have h9 : '9'.toNat = 57 := rfl
  constructor
  · have hval : c.toNat = c.val.toNat := rfl
    have ha : 'a'.val.toNat = 97 := rfl
    have hz : 'z'.val.toNat = 122 := rfl
    have h0' : '0'.val.toNat = 48 := rfl
    have h9' : '9'.val.toNat = 57 := rfl
    unfold isUrlSafeChar
    delta Char.isAlphanum Char.isAlpha Char.isUpper Char.isLower Char.isDigit
    simp only [Bool.or_eq_true, Bool.and_eq_true, decide_eq_true_eq, UInt32.le_iff_toNat_le,
      ge_iff_le]
    omega
  · apply Char.toNat_inj.mp
    rw [toNat_toLower, if_neg (by omega)]

theorem isLowerHexDigit_of_mem_encode {bytes : List UInt8} {c : Char}
    (h : c ∈ (HexText.encode bytes).toList) : isLowerHexDigit c = true := by
  have hdigit : ∀ n : Fin 16, isLowerHexDigit (HexText.digit n.val) = true := by decide
  unfold HexText.encode HexText.digits at h
  rw [String.toList_ofList, List.mem_flatMap] at h
  obtain ⟨byte, -, hmem⟩ := h
  have hbyte : byte.toNat < 256 := byte.toNat_lt
  simp only [List.mem_cons, List.not_mem_nil, or_false] at hmem
  obtain rfl | rfl := hmem
  · exact hdigit ⟨byte.toNat / 16, by omega⟩
  · exact hdigit ⟨byte.toNat % 16, Nat.mod_lt _ (by decide)⟩

theorem length_encode (bytes : List UInt8) :
    (HexText.encode bytes).toList.length = 2 * bytes.length := by
  unfold HexText.encode HexText.digits
  rw [String.toList_ofList]
  induction bytes with
  | nil => rfl
  | cons byte rest ih =>
      rw [List.flatMap_cons, List.length_append, ih, List.length_cons]
      simp only [List.length_cons, List.length_nil]
      omega

theorem digit_of_value {c : Char} {n : Nat} (h : HexText.value c = some n) :
    n < 16 ∧ HexText.digit n = c.toLower := by
  have hdigit : ∀ n : Fin 16, (HexText.digit n.val).toNat =
      if n.val < 10 then n.val + 48 else n.val + 87 := by decide
  have hlower := toNat_toLower c
  have hcase : n < 16 ∧ (if n < 10 then n + 48 else n + 87) = c.toLower.toNat := by
    unfold HexText.value at h
    dsimp only at h
    split at h
    · cases h
      rw [if_neg (by omega)] at hlower
      rw [if_pos (by omega)]
      omega
    · split at h
      · cases h
        rw [if_neg (by omega)] at hlower
        rw [if_neg (by omega)]
        omega
      · split at h
        · cases h
          rw [if_pos (by omega)] at hlower
          rw [if_neg (by omega)]
          omega
        · cases h
  refine ⟨hcase.1, Char.toNat_inj.mp ?_⟩
  exact (hdigit ⟨n, hcase.1⟩).trans hcase.2

theorem digits_of_bytes (chars : List Char) :
    ∀ bytes, HexText.bytes chars = some bytes →
      HexText.digits bytes = chars.map Char.toLower := by
  induction chars using HexText.bytes.induct with
  | case1 =>
      intro bytes h
      cases h
      rfl
  | case2 high low rest ih =>
      intro bytes h
      rw [HexText.bytes] at h
      obtain ⟨highValue, hhigh, h⟩ := Option.bind_eq_some_iff.mp h
      obtain ⟨lowValue, hlow, h⟩ := Option.bind_eq_some_iff.mp h
      obtain ⟨tail, htail, h⟩ := Option.bind_eq_some_iff.mp h
      cases h
      obtain ⟨hhigh16, hhigh⟩ := digit_of_value hhigh
      obtain ⟨hlow16, hlow⟩ := digit_of_value hlow
      have hbyte : (UInt8.ofNat (highValue * 16 + lowValue)).toNat =
          highValue * 16 + lowValue := by
        rw [UInt8.toNat_ofNat']
        omega
      change [HexText.digit _, HexText.digit _] ++ HexText.digits tail = _
      rw [hbyte, ih tail htail, show (highValue * 16 + lowValue) / 16 = highValue by omega,
        show (highValue * 16 + lowValue) % 16 = lowValue by omega, hhigh, hlow]
      rfl
  | case3 c =>
      intro bytes h
      cases h

/-- A text of hexadecimal digits is written back in lower case. -/
theorem encode_of_decode {text : String} {bytes : List UInt8}
    (h : HexText.decode text = some bytes) :
    HexText.encode bytes = String.ofList (text.toList.map Char.toLower) :=
  congrArg String.ofList (digits_of_bytes text.toList bytes h)

/-- The keys are written as 64 hexadecimal digits in lower case and read back. -/
structure KeyLaws {K : Type} (codec : LinkCodec K) : Prop where
  parse : ∀ key, codec.parsePublicKey (codec.toHex key) = .ok key
  length : ∀ key, (codec.toHex key).toList.length = 64
  digits : ∀ key, ∀ c ∈ (codec.toHex key).toList, isLowerHexDigit c = true

/-- The letter of the other base64 alphabet. -/
def urlSafeLetter (c : Char) : Char := if c = '+' then '-' else if c = '/' then '_' else c

/-- This object is read back from its text, and the text from its base64 in either alphabet; the
one with padding differs from the other by two letters and the padding. -/
structure RoundTrips {K : Type} (codec : LinkCodec K) (fields : List (String × JsonField)) :
    Prop where
  jsonFromSlice : codec.jsonFromSlice (codec.utf8 (codec.jsonToString fields)) =
    .ok (.object fields)
  jsonParse : codec.jsonParse (codec.jsonToString fields) = some (.object fields)
  utf8 : codec.utf8Decode (codec.utf8 (codec.jsonToString fields)) = codec.jsonToString fields
  urlSafeDecode : codec.urlSafeDecode (codec.urlSafeEncode
    (codec.utf8 (codec.jsonToString fields))) = .ok (codec.utf8 (codec.jsonToString fields))
  atob : codec.atob (codec.btoa (codec.utf8 (codec.jsonToString fields))) =
    some (codec.utf8 (codec.jsonToString fields))
  alphabet : ∃ body padding, body ≠ [] ∧ padding ≤ 2 ∧ (body.length + padding) % 4 = 0 ∧
    (∀ c ∈ body, c.isAlphanum = true ∨ c = '+' ∨ c = '/') ∧
    codec.btoa (codec.utf8 (codec.jsonToString fields)) =
      String.ofList (body ++ List.replicate padding '=') ∧
    codec.urlSafeEncode (codec.utf8 (codec.jsonToString fields)) =
      String.ofList (body.map urlSafeLetter)

/-! Codes. -/

section

variable {K : Type} {codec : LinkCodec K}

/-- Three parts without a dot or white space come back from their code. -/
theorem splitOn_code {parts : List String}
    (hparts : ∀ part ∈ parts, ∀ c ∈ part.toList, isUrlSafeChar c = true) (hne : parts ≠ []) :
    ((['.'].intercalate (parts.map String.toList)).splitOn '.').map String.ofList = parts := by
  rw [List.splitOn_intercalate]
  · rw [List.map_map]
    have hid : String.ofList ∘ String.toList = id := funext (fun _ => String.ofList_toList)
    rw [hid, List.map_id]
  · intro chars hmem hdot
    obtain ⟨part, hpart, rfl⟩ := List.mem_map.mp hmem
    have hsafe := hparts part hpart '.' hdot
    revert hsafe
    decide
  · simpa using hne

theorem toList_code (first second third : String) :
    (first ++ "." ++ second ++ "." ++ third).toList =
      ['.'].intercalate ([first, second, third].map String.toList) := by
  simp [List.intercalate]

theorem mem_code {first second third : String} {c : Char}
    (hparts : ∀ part ∈ [first, second, third], ∀ c ∈ part.toList, isUrlSafeChar c = true)
    (h : c ∈ (first ++ "." ++ second ++ "." ++ third).toList) :
    isUrlSafeChar c = true ∨ c = '.' := by
  have hdot : ".".toList = ['.'] := rfl
  simp only [String.toList_append, hdot, List.mem_append, List.mem_singleton] at h
  obtain (((hmem | rfl) | hmem) | rfl) | hmem := h
  · exact .inl (hparts first (by simp) c hmem)
  · exact .inr rfl
  · exact .inl (hparts second (by simp) c hmem)
  · exact .inr rfl
  · exact .inl (hparts third (by simp) c hmem)

theorem trim_lower {text : String} (h : ∀ c ∈ text.toList, isLowerHexDigit c = true) :
    String.ofList ((trim text).toList.map Char.toLower) = text := by
  have htrimmed : trim text = text := trimmed_of_forall (fun c hmem =>
    isWhitespace_of_isUrlSafeChar (isUrlSafeChar_of_isLowerHexDigit (h c hmem)).1)
  have hlower : text.toList.map Char.toLower = text.toList :=
    (List.map_congr_left (fun c hmem => (isUrlSafeChar_of_isLowerHexDigit (h c hmem)).2)).trans
      (List.map_id _)
  rw [htrimmed, hlower, String.ofList_toList]

/-- A secret that was accepted is accepted again as it is written. -/
theorem parseSecretHex_encode {secret : String} {bytes : List UInt8}
    (h : parseSecretHex codec secret = .ok bytes) :
    parseSecretHex codec (HexText.encode bytes) = .ok bytes ∧
      (∃ key, codec.publicKey bytes = .ok key) ∧ bytes.length = 32 ∧
      HexText.encode bytes = String.ofList ((trim secret).toList.map Char.toLower) := by
  have hchecks := h
  unfold parseSecretHex at hchecks
  obtain ⟨_, -, hchecks⟩ := except_bind_eq_ok.mp hchecks
  obtain ⟨read, hread, hchecks⟩ := except_bind_eq_ok.mp hchecks
  obtain ⟨_, hlength, hchecks⟩ := except_bind_eq_ok.mp hchecks
  obtain ⟨key, hkey, hchecks⟩ := except_bind_eq_ok.mp hchecks
  cases hchecks
  have hdecode : HexText.decode (String.ofList ((trim secret).toList.map Char.toLower)) =
      some bytes := by
    split at hread
    · cases hread
    · rename_i found hfound
      cases hread
      exact hfound
  have hencode : HexText.encode bytes =
      String.ofList ((trim secret).toList.map Char.toLower) := by
    rw [encode_of_decode hdecode, String.toList_ofList, List.map_map]
    have hcomp : Char.toLower ∘ Char.toLower = Char.toLower := funext toLower_toLower
    rw [hcomp]
  have hagain : parseSecretHex codec (HexText.encode bytes) = parseSecretHex codec secret := by
    unfold parseSecretHex
    rw [trim_lower (fun c hmem => isLowerHexDigit_of_mem_encode hmem), hencode]
  refine ⟨hagain.trans h, ?_, ?_, hencode⟩
  · cases hpublic : codec.publicKey bytes with
    | ok key => exact ⟨key, rfl⟩
    | error error =>
        rw [hpublic] at hkey
        cases hkey
  · unfold ensure at hlength
    split at hlength
    · assumption
    · cases hlength

/-- The fields are read as they were written. -/
theorem deserializeMetadata_metadataFields {metadata : CompactDeviceLinkMetadata}
    (hv : metadata.v ≤ 255) (htime : ∀ time, metadata.requestedAt = some time → time ≤ u64Max) :
    deserializeMetadata (.object (metadataFields metadata)) = some metadata := by
  obtain ⟨v, requestedAt, deviceLabel, clientLabel⟩ := metadata
  have hv' : v ≤ 255 := hv
  cases requestedAt with
  | none =>
      cases deviceLabel <;> cases clientLabel <;>
        simp [deserializeMetadata, metadataFields, fieldOf, optionalU64, optionalString, hv']
  | some time =>
      have htime' : time ≤ u64Max := htime time rfl
      cases deviceLabel <;> cases clientLabel <;>
        simp [deserializeMetadata, metadataFields, fieldOf, optionalU64, optionalString, hv',
          htime']

/-- The metadata that is written for these options. -/
def writtenMetadata (deviceLabel clientLabel : Option String) (requestedAt : Option Nat) :
    CompactDeviceLinkMetadata :=
  ⟨1, requestedAt, normalizeLabel deviceLabel, normalizeLabel clientLabel⟩

theorem encodeCompactDeviceLinkRequest_eq {secret : String} {bytes : List UInt8}
    (hsecret : parseSecretHex codec secret = .ok bytes) (key : K)
    (deviceLabel clientLabel : Option String) (requestedAt : Option Nat) :
    encodeCompactDeviceLinkRequest codec key secret deviceLabel clientLabel requestedAt =
      .ok (codec.toHex key ++ "." ++ HexText.encode bytes ++ "." ++
        codec.urlSafeEncode (codec.utf8 (codec.jsonToString
          (metadataFields (writtenMetadata deviceLabel clientLabel requestedAt))))) := by
  unfold encodeCompactDeviceLinkRequest
  rw [hsecret]
  rfl

/-- The parts of a code hold letters of the base64 alphabet only. -/
theorem isUrlSafeChar_of_mem_parts (hkeys : KeyLaws codec) (key : K) (bytes : List UInt8)
    {fields : List (String × JsonField)} (hcodec : RoundTrips codec fields) :
    ∀ part ∈ [codec.toHex key, HexText.encode bytes,
        codec.urlSafeEncode (codec.utf8 (codec.jsonToString fields))],
      ∀ c ∈ part.toList, isUrlSafeChar c = true := by
  intro part hpart c hmem
  simp only [List.mem_cons, List.not_mem_nil, or_false] at hpart
  obtain rfl | rfl | rfl := hpart
  · exact (isUrlSafeChar_of_isLowerHexDigit (hkeys.digits key c hmem)).1
  · exact (isUrlSafeChar_of_isLowerHexDigit (isLowerHexDigit_of_mem_encode hmem)).1
  · obtain ⟨body, padding, -, -, -, hletters, -, hurl⟩ := hcodec.alphabet
    rw [hurl, String.toList_ofList] at hmem
    obtain ⟨letter, hletter, rfl⟩ := List.mem_map.mp hmem
    unfold isUrlSafeChar urlSafeLetter
    obtain hletter | rfl | rfl := hletters letter hletter
    · split
      · rfl
      · split
        · rfl
        · simp [hletter]
    · rfl
    · rfl

theorem parseDeviceLinkMetadata_urlSafeEncode (metadata : CompactDeviceLinkMetadata)
    (hv : metadata.v = 1) (htime : ∀ time, metadata.requestedAt = some time → time ≤ u64Max)
    (hcodec : RoundTrips codec (metadataFields metadata))
    (hsafe : ∀ c ∈ (codec.urlSafeEncode (codec.utf8 (codec.jsonToString
      (metadataFields metadata)))).toList, isUrlSafeChar c = true) :
    parseDeviceLinkMetadata codec (codec.urlSafeEncode (codec.utf8 (codec.jsonToString
      (metadataFields metadata)))) =
        .ok ⟨1, metadata.requestedAt, normalizeLabel metadata.deviceLabel,
          normalizeLabel metadata.clientLabel⟩ := by
  have hne : (codec.urlSafeEncode (codec.utf8 (codec.jsonToString
      (metadataFields metadata)))).toList ≠ [] := by
    obtain ⟨body, padding, hbody, -, -, -, -, hurl⟩ := hcodec.alphabet
    rw [hurl, String.toList_ofList]
    simpa using hbody
  have hread : deserializeMetadata (.object (metadataFields metadata)) = some metadata :=
    deserializeMetadata_metadataFields (by omega) htime
  unfold parseDeviceLinkMetadata ensure
  rw [if_pos ⟨hne, List.all_eq_true.mpr hsafe⟩, hcodec.urlSafeDecode]
  simp only [Except.mapError, bind, Except.bind, hcodec.jsonFromSlice, hread, hv]
  rfl

/-- The key, the secret and the time of a code are read back; its labels are normalised again. -/
theorem parse_encode (hkeys : KeyLaws codec) {secret : String} {bytes : List UInt8}
    (hsecret : parseSecretHex codec secret = .ok bytes) (key : K)
    (deviceLabel clientLabel : Option String) {requestedAt : Option Nat}
    (htime : ∀ time, requestedAt = some time → time ≤ u64Max)
    (hcodec : RoundTrips codec
      (metadataFields (writtenMetadata deviceLabel clientLabel requestedAt))) :
    ∃ code requestPubkey,
      encodeCompactDeviceLinkRequest codec key secret deviceLabel clientLabel requestedAt =
        .ok code ∧
      codec.publicKey bytes = .ok requestPubkey ∧
      parseCompactDeviceLinkRequest codec code =
        .ok ⟨requestPubkey, key, HexText.encode bytes, requestedAt,
          normalizeLabel (normalizeLabel deviceLabel),
          normalizeLabel (normalizeLabel clientLabel)⟩ := by
  obtain ⟨hagain, ⟨requestPubkey, hpublic⟩, -, -⟩ := parseSecretHex_encode hsecret
  have hparts := isUrlSafeChar_of_mem_parts hkeys key bytes hcodec
  refine ⟨_, requestPubkey, encodeCompactDeviceLinkRequest_eq hsecret key deviceLabel clientLabel
    requestedAt, hpublic, ?_⟩
  have htrim : trim (codec.toHex key ++ "." ++ HexText.encode bytes ++ "." ++
      codec.urlSafeEncode (codec.utf8 (codec.jsonToString
        (metadataFields (writtenMetadata deviceLabel clientLabel requestedAt))))) = _ :=
    trimmed_of_forall (fun c hmem => by
      obtain hsafe | rfl := mem_code hparts hmem
      · exact isWhitespace_of_isUrlSafeChar hsafe
      · decide)
  have hmetadata := parseDeviceLinkMetadata_urlSafeEncode
    (writtenMetadata deviceLabel clientLabel requestedAt) rfl htime hcodec (hparts _ (by simp))
  unfold parseCompactDeviceLinkRequest
  rw [htrim, toList_code, splitOn_code hparts (List.cons_ne_nil _ _)]
  simp only [hkeys.parse, hagain, hmetadata]
  change ((codec.publicKey bytes).mapError Error.nostrKey >>= fun requestPubkey => pure _) = _
  rw [hpublic]
  rfl

end

end NostrDoubleRatchet.DeviceLink
