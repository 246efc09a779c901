import NostrDoubleRatchet.Group.WireRoundTrip
import NostrDoubleRatchet.TypeScript.GroupMeta

/-!
Two readers of one roster fact, `group_roster_snapshot_from_unsigned_event` of `group_wire.rs` and
`parseGroupRosterFactRumor` of `GroupMeta.ts`. They differ in what counts as white space and in
whether a number may carry a plus sign; where a rumor has neither, they read the same group.
-/

namespace NostrDoubleRatchet.RosterAgreement

/-- Both sides fail, or both succeed with related results. -/
inductive Agree {α β ε δ : Type} (related : α → β → Prop) : Except ε α → Except δ β → Prop where
  | accepted {a : α} {b : β} (h : related a b) : Agree related (.ok a) (.ok b)
  | rejected {e : ε} {d : δ} : Agree related (.error e) (.error d)

theorem agree_of_ok {α β ε δ : Type} {related : α → β → Prop} {left : Except ε α}
    {right : Except δ β} (hleft : ∀ a, left = .ok a → ∃ b, right = .ok b ∧ related a b)
    (hright : ∀ b, right = .ok b → ∃ a, left = .ok a) : Agree related left right := by
  cases left with
  | ok a =>
      obtain ⟨b, rfl, hrelated⟩ := hleft a rfl
      exact .accepted hrelated
  | error e =>
      cases right with
      | ok b =>
          obtain ⟨a, ha⟩ := hright b rfl
          cases ha
      | error e => exact .rejected

/-- What is read off related results agrees. -/
theorem Agree.map_eq {α β γ ε δ : Type} {related : α → β → Prop} {left : Except ε α}
    {right : Except δ β} (h : Agree related left right) {f : α → γ} {g : β → γ}
    (hread : ∀ a b, related a b → f a = g b) :
    left.toOption.map f = right.toOption.map g := by
  cases h with
  | accepted h => exact congrArg some (hread _ _ h)
  | rejected => rfl

section Texts

def lowerHex (text : String) : String := String.ofList (text.toList.map Char.toLower)

/-- Tags that carry a number. -/
def numberKeys : List String := ["schema", "revision", "created_at", "updated_at"]

/-- Both languages trim every value alike, and no number has a plus sign. -/
structure PlainTags (tags : List (List String)) : Prop where
  trims : ∀ tag ∈ tags, ∀ value, tag[1]? = some value → trim value = TypeScript.jsTrim value
  unsigned : ∀ key ∈ numberKeys, ∀ value ∈ TypeScript.tagValues tags key,
    value.toList.head? ≠ some '+'

/-- The numbers written in the tags are below `2^53`. -/
def SafeNumbers (tags : List (List String)) : Prop :=
  ∀ key ∈ numberKeys, ∀ value ∈ TypeScript.tagValues tags key,
    value.toList.all Char.isDigit = true → Nat.ofDigitChars 10 value.toList 0 < 2 ^ 53

theorem jsTrim_jsTrim (text : String) :
    TypeScript.jsTrim (TypeScript.jsTrim text) = TypeScript.jsTrim text := by
  unfold TypeScript.jsTrim
  rw [String.toList_ofList, trim_idempotent]

theorem jsTrim_of_mem_tagValues {tags : List (List String)} {key value : String}
    (h : value ∈ TypeScript.tagValues tags key) : TypeScript.jsTrim value = value := by
  unfold TypeScript.tagValues at h
  obtain ⟨tag, -, rfl⟩ := List.mem_map.mp (List.mem_filter.mp h).1
  cases tag[1]? with
  | none => rfl
  | some raw => exact jsTrim_jsTrim raw

theorem mem_tagValues_of_requireTagValue {tags : List (List String)} {key value : String}
    (h : TypeScript.requireTagValue tags key = .ok value) :
    value ∈ TypeScript.tagValues tags key := by
  unfold TypeScript.requireTagValue at h
  split at h
  · cases h
  · rename_i found hfound
    cases h
    exact List.mem_of_head? hfound

/-- The values under a key, selected by any test of the tag. -/
theorem values_eq {tags : List (List String)} (h : PlainTags tags) (p : List String → Bool) :
    (tags.filterMap (fun values => if p values then values[1]?.map trim else none)).filter
        (· ≠ "") =
      ((tags.filter p).map (fun tag => (tag[1]?.map TypeScript.jsTrim).getD "")).filter
        (· ≠ "") := by
  have htrims := h.trims
  clear h
  induction tags with
  | nil => rfl
  | cons tag rest ih =>
      have hrest := ih (fun other hmem => htrims other (List.mem_cons_of_mem _ hmem))
      by_cases hp : p tag = true
      · rw [List.filter_cons_of_pos hp, List.map_cons]
        cases hvalue : tag[1]? with
        | none =>
            rw [List.filterMap_cons_none (by rw [if_pos hp, hvalue]; rfl)]
            exact hrest
        | some value =>
            have hsame := htrims tag List.mem_cons_self value hvalue
            rw [List.filterMap_cons_some (by rw [if_pos hp, hvalue]; rfl), hsame,
              List.filter_cons, List.filter_cons, hrest]
            rfl
      · rw [List.filter_cons_of_neg hp, List.filterMap_cons_none (by rw [if_neg hp])]
        exact hrest

theorem tagValues_eq {tags : List (List String)} (h : PlainTags tags) (key : String) :
    GroupWire.tagValues tags key = TypeScript.tagValues tags key := by
  have hvalues := values_eq h (fun tag => decide (tag.head? = some key))
  unfold TypeScript.tagValues
  rw [← hvalues]
  unfold GroupWire.tagValues
  congr 2
  funext values
  by_cases hhead : values.head? = some key
  · simp [hhead]
  · simp [hhead]

theorem groupIdFromTags_iff {tags : List (List String)} (h : PlainTags tags) {groupId : String} :
    GroupWire.groupIdFromTags tags = .ok groupId ↔
      TypeScript.groupIdFromTags tags = .ok groupId := by
  have hsubjects := values_eq h
    (fun tag => decide (tag.head? = some "i") && decide (tag[2]? = some "subject"))
  have hd := tagValues_eq h "d"
  unfold GroupWire.groupIdFromTags TypeScript.groupIdFromTags TypeScript.requireTagValue
    TypeScript.firstTagValue
  simp only [Bool.and_eq_true, decide_eq_true_eq] at hsubjects
  rw [hsubjects, hd]
  dsimp only
  generalize List.filter _ (List.map _ (List.filter _ tags)) = subjects
  match subjects with
  | [] => simp
  | [subject] =>
      cases (TypeScript.tagValues tags "d").head? with
      | none => simp [Bind.bind, Except.bind]
      | some d =>
          by_cases hsame : d = subject
          · simp [hsame, Bind.bind, Except.bind]
          · simp [hsame, Bind.bind, Except.bind]
  | _ :: _ :: _ => simp

theorem parseUnsigned_of_unsigned {value : String} (hne : value.toList ≠ [])
    (hplus : value.toList.head? ≠ some '+') (max : Nat) :
    GroupWire.parseUnsigned max value = GroupWire.parseDigits max value.toList 0 := by
  unfold GroupWire.parseUnsigned
  split
  · rename_i hempty
    exact absurd hempty hne
  · rename_i hsign
    rw [hsign] at hplus
    exact absurd rfl hplus
  · rename_i hsign
    rw [hsign] at hplus
    exact absurd rfl hplus
  · rfl

/-- A number without a sign is read alike. -/
theorem parseUnsigned_iff {value label : String} {n : Nat}
    (htrim : TypeScript.jsTrim value = value) (hplus : value.toList.head? ≠ some '+')
    (hsafe : value.toList.all Char.isDigit = true → Nat.ofDigitChars 10 value.toList 0 < 2 ^ 53) :
    GroupWire.parseUnsigned u64Max value = .ok n ↔
      TypeScript.requireNonNegativeInteger value label = .ok n := by
  have hmax : TypeScript.maxSafeInteger = 2 ^ 53 - 1 := rfl
  have hu64 : u64Max = 2 ^ 64 - 1 := rfl
  unfold TypeScript.requireNonNegativeInteger
  rw [htrim]
  dsimp only
  by_cases hne : value.toList = []
  · unfold GroupWire.parseUnsigned
    rw [hne]
    simp
  rw [parseUnsigned_of_unsigned hne hplus, GroupWire.parseDigits_eq_ok (Nat.zero_le _),
    ← Nat.ofDigitChars_eq_foldl]
  by_cases hall : value.toList.all Char.isDigit = true
  · have hlt := hsafe hall
    have hmem : ∀ d ∈ value.toList, d.isDigit = true := List.all_eq_true.mp hall
    rw [if_neg (by simp [hne, hall]), if_neg (by omega)]
    constructor
    · rintro ⟨-, rfl, -⟩
      rfl
    · intro hok
      cases hok
      exact ⟨hmem, rfl, by omega⟩
  · rw [if_pos (Or.inr hall)]
    constructor
    · rintro ⟨hmem, -⟩
      exact absurd (List.all_eq_true.mpr hmem) hall
    · intro hok
      cases hok

end Texts

section Reading

variable {K T : Type}

theorem requiredValue_iff {event : GroupWire.UnsignedEvent K T} (h : PlainTags event.tags)
    {key value : String} :
    GroupWire.requiredValue event key = .ok value ↔
      TypeScript.requireTagValue event.tags key = .ok value := by
  unfold GroupWire.requiredValue TypeScript.requireTagValue TypeScript.firstTagValue
  rw [tagValues_eq h]
  cases (TypeScript.tagValues event.tags key).head? with
  | none => simp
  | some found => simp

theorem requiredU64_iff {event : GroupWire.UnsignedEvent K T} (h : PlainTags event.tags)
    (hsafe : SafeNumbers event.tags) {key : String} (hkey : key ∈ numberKeys) {n : Nat} :
    GroupWire.requiredU64 event key = .ok n ↔
      TypeScript.requireTagInteger event.tags key = .ok n := by
  unfold GroupWire.requiredU64 TypeScript.requireTagInteger
  rw [except_bind_eq_ok, except_bind_eq_ok]
  have hread : ∀ value, TypeScript.requireTagValue event.tags key = .ok value →
      (GroupWire.parseUnsigned u64Max value = .ok n ↔
        TypeScript.requireNonNegativeInteger value key = .ok n) := by
    intro value hvalue
    have hmem := mem_tagValues_of_requireTagValue hvalue
    exact parseUnsigned_iff (jsTrim_of_mem_tagValues hmem) (h.unsigned key hkey value hmem)
      (hsafe key hkey value hmem)
  constructor
  · rintro ⟨value, hvalue, hnumber⟩
    have hsame := (requiredValue_iff h).mp hvalue
    refine ⟨value, hsame, (hread value hsame).mp ?_⟩
    split at hnumber
    · rename_i number hparsed
      cases hnumber
      exact hparsed
    · cases hnumber
  · rintro ⟨value, hvalue, hnumber⟩
    refine ⟨value, (requiredValue_iff h).mpr hvalue, ?_⟩
    rw [(hread value hvalue).mpr hnumber]

variable [Primitives K T] [EventPrimitives K]

variable (K T) in
/-- `hex` on 32 bytes: two digits for each, read in either case and written in lower case. -/
structure HexLaws : Prop where
  reads : ∀ text, TypeScript.isHex64 text = true → ∃ key : K,
    EventPrimitives.hexDecode text = .ok (some key) ∧ Primitives.toHex key = lowerHex text
  rejects : ∀ text (key : K), EventPrimitives.hexDecode text = .ok (some key) →
    TypeScript.isHex64 text = true
  writes : ∀ key : K, TypeScript.isHex64 (Primitives.toHex key) = true
  injective : ∀ a b : K, Primitives.toHex a = Primitives.toHex b → a = b

/-- The same keys, as bytes and as texts. -/
def SameKeys (keys : List (OwnerPubkey K)) (texts : List String) : Prop :=
  ∀ text, text ∈ texts ↔ ∃ key ∈ keys, Primitives.toHex key.bytes = text

def protocolOf : Option TypeScript.GroupRosterProtocol → GroupProtocol
  | some .pairwiseFanoutV1 => GroupProtocol.pairwiseFanoutV1
  | some .senderKeyV1 => GroupProtocol.senderKeyV1
  | none => GroupProtocol.senderKeyV1

structure SameRoster (snapshot : GroupSnapshot K) (fact : TypeScript.GroupRosterFact) : Prop where
  groupId : fact.groupId = snapshot.groupId
  name : fact.group.name = snapshot.name
  description : fact.group.description = snapshot.about
  picture : fact.group.picture = snapshot.picture
  members : SameKeys snapshot.members fact.group.members
  admins : SameKeys snapshot.admins fact.group.admins
  revision : fact.revision = snapshot.revision
  createdBy : fact.createdBy = Primitives.toHex snapshot.createdBy.bytes
  createdAt : fact.group.createdAt = snapshot.createdAt
  updatedAt : fact.updatedAt = snapshot.updatedAt
  protocol : protocolOf fact.protocol = snapshot.protocol

theorem isHex64_lowerHex (text : String) :
    TypeScript.isHex64 (lowerHex text) = TypeScript.isHex64 text := by
  unfold TypeScript.isHex64 lowerHex
  rw [String.toList_ofList, List.length_map, List.all_map]
  congr 2
  funext c
  exact isAsciiHexDigit_toLower c

theorem isJsWhitespace_of_isAsciiHexDigit {c : Char} (h : isAsciiHexDigit c = true) :
    TypeScript.isJsWhitespace c = false := by
  have h0 : '0'.toNat = 48 := rfl
  have h9 : '9'.toNat = 57 := rfl
  simp only [isAsciiHexDigit, Bool.or_eq_true, Bool.and_eq_true, decide_eq_true_eq,
    Char.isDigit_iff_toNat] at h
  simp only [TypeScript.isJsWhitespace, Bool.or_eq_false_iff, Bool.and_eq_false_iff,
    decide_eq_false_iff_not]
  omega

theorem jsTrim_of_isHex64 {text : String} (h : TypeScript.isHex64 text = true) :
    TypeScript.jsTrim text = text := by
  have hall : ∀ c ∈ text.toList, TypeScript.isJsWhitespace c = false := by
    intro c hmem
    simp only [TypeScript.isHex64, Bool.and_eq_true] at h
    exact isJsWhitespace_of_isAsciiHexDigit (List.all_eq_true.mp h.2 c hmem)
  unfold TypeScript.jsTrim
  rw [dropWhile_of_forall hall,
    dropWhile_of_forall (fun c hmem => hall c (List.mem_reverse.mp hmem)), List.reverse_reverse,
    String.ofList_toList]

/-- A key read from bytes is the key read as a text. -/
theorem requireHexPubkey_of_parse (laws : HexLaws K T) {value label : String}
    (htrim : TypeScript.jsTrim value = value) {owner : OwnerPubkey K}
    (h : GroupWire.parseOwnerPubkeyHex value = .ok owner) :
    TypeScript.requireHexPubkey value label = .ok (Primitives.toHex owner.bytes) := by
  unfold GroupWire.parseOwnerPubkeyHex GroupWire.parseBytesHex at h
  split at h
  · cases h
  · cases h
  · rename_i bytes hbytes
    cases h
    have hhex := laws.rejects value bytes hbytes
    obtain ⟨key, hkey, htext⟩ := laws.reads value hhex
    rw [hbytes] at hkey
    cases hkey
    unfold TypeScript.requireHexPubkey
    rw [htrim]
    change (if TypeScript.isHex64 (lowerHex value) then Except.ok (lowerHex value) else _) = _
    rw [isHex64_lowerHex, if_pos hhex, htext]

theorem parse_of_requireHexPubkey (laws : HexLaws K T) {value label text : String}
    (htrim : TypeScript.jsTrim value = value)
    (h : TypeScript.requireHexPubkey value label = .ok text) :
    ∃ owner : OwnerPubkey K, GroupWire.parseOwnerPubkeyHex value = .ok owner ∧
      Primitives.toHex owner.bytes = text := by
  unfold TypeScript.requireHexPubkey at h
  rw [htrim] at h
  change (if TypeScript.isHex64 (lowerHex value) then Except.ok (lowerHex value) else _) = _ at h
  rw [isHex64_lowerHex] at h
  split at h
  · rename_i hhex
    cases h
    obtain ⟨key, hkey, htext⟩ := laws.reads value hhex
    refine ⟨⟨key⟩, ?_, htext⟩
    unfold GroupWire.parseOwnerPubkeyHex GroupWire.parseBytesHex
    rw [hkey]
    rfl
  · cases h

theorem requireHexPubkey_toHex (laws : HexLaws K T) (key : K) (label : String) :
    ∃ text, TypeScript.requireHexPubkey (Primitives.toHex key) label = .ok text := by
  have hhex := laws.writes key
  unfold TypeScript.requireHexPubkey
  rw [jsTrim_of_isHex64 hhex]
  change ∃ text, (if TypeScript.isHex64 (lowerHex (Primitives.toHex key)) then
    Except.ok (lowerHex (Primitives.toHex key)) else _) = _
  rw [isHex64_lowerHex, if_pos hhex]
  exact ⟨_, rfl⟩

theorem mapM_requireHexPubkey (laws : HexLaws K T) {values : List String} (label : String)
    (htrim : ∀ value ∈ values, TypeScript.jsTrim value = value) {owners : List (OwnerPubkey K)}
    (h : values.mapM GroupWire.parseOwnerPubkeyHex = .ok owners) :
    values.mapM (TypeScript.requireHexPubkey · label) =
      .ok (owners.map (fun owner => Primitives.toHex owner.bytes)) := by
  induction values generalizing owners with
  | nil =>
      cases h
      rfl
  | cons value rest ih =>
      rw [List.mapM_cons, except_bind_eq_ok] at h
      obtain ⟨owner, howner, h⟩ := h
      rw [except_bind_eq_ok] at h
      obtain ⟨later, hlater, hpure⟩ := h
      cases hpure
      rw [List.mapM_cons, requireHexPubkey_of_parse laws (htrim value List.mem_cons_self) howner,
        ih (fun other hmem => htrim other (List.mem_cons_of_mem _ hmem)) hlater]
      rfl

theorem mapM_parseOwnerPubkeyHex (laws : HexLaws K T) {values : List String} {label : String}
    (htrim : ∀ value ∈ values, TypeScript.jsTrim value = value) {texts : List String}
    (h : values.mapM (TypeScript.requireHexPubkey · label) = .ok texts) :
    ∃ owners : List (OwnerPubkey K), values.mapM GroupWire.parseOwnerPubkeyHex = .ok owners := by
  induction values generalizing texts with
  | nil => exact ⟨[], rfl⟩
  | cons value rest ih =>
      rw [List.mapM_cons, except_bind_eq_ok] at h
      obtain ⟨text, htext, h⟩ := h
      rw [except_bind_eq_ok] at h
      obtain ⟨later, hlater, hpure⟩ := h
      obtain ⟨owner, howner, -⟩ :=
        parse_of_requireHexPubkey (K := K) (T := T) laws (htrim value List.mem_cons_self) htext
      obtain ⟨owners, howners⟩ :=
        ih (fun other hmem => htrim other (List.mem_cons_of_mem _ hmem)) hlater
      refine ⟨owner :: owners, ?_⟩
      rw [List.mapM_cons, howner, howners]
      rfl

theorem ownerPubkeys_of_canonicalPubkeys (laws : HexLaws K T)
    {event : GroupWire.UnsignedEvent K T} (h : PlainTags event.tags) {key label : String}
    {texts : List String}
    (htexts : TypeScript.canonicalPubkeys (TypeScript.tagValues event.tags key) label =
      .ok texts) : ∃ owners, GroupWire.ownerPubkeys event key = .ok owners := by
  unfold TypeScript.canonicalPubkeys at htexts
  rw [except_bind_eq_ok] at htexts
  obtain ⟨found, hfound, -⟩ := htexts
  unfold GroupWire.ownerPubkeys
  rw [tagValues_eq h]
  exact mapM_parseOwnerPubkeyHex laws (fun _ => jsTrim_of_mem_tagValues) hfound

variable [LinearOrder K]

/-- The keys under a tag, as both clients sort them. -/
theorem canonicalPubkeys_of_ownerPubkeys (laws : HexLaws K T)
    {event : GroupWire.UnsignedEvent K T} (h : PlainTags event.tags) {key : String}
    {owners : List (OwnerPubkey K)} (howners : GroupWire.ownerPubkeys event key = .ok owners)
    (label : String) :
    ∃ texts, TypeScript.canonicalPubkeys (TypeScript.tagValues event.tags key) label = .ok texts ∧
      SameKeys (GroupWire.canonicalOwnerPubkeys owners) texts := by
  unfold GroupWire.ownerPubkeys at howners
  rw [tagValues_eq h] at howners
  have htexts := mapM_requireHexPubkey laws label (fun _ => jsTrim_of_mem_tagValues) howners
  refine ⟨(SortedSet.ofList (owners.map (fun owner => Primitives.toHex owner.bytes))).toList,
    ?_, ?_⟩
  · unfold TypeScript.canonicalPubkeys
    rw [htexts]
    rfl
  · intro text
    rw [SortedSet.mem_toList, SortedSet.mem_ofList, List.mem_map]
    unfold GroupWire.canonicalOwnerPubkeys
    simp only [SortedSet.mem_toList, SortedSet.mem_ofList]

theorem requireAdminsAreMembers_iff (laws : HexLaws K T) {admins members : List (OwnerPubkey K)}
    {adminTexts memberTexts : List String} (hadmins : SameKeys admins adminTexts)
    (hmembers : SameKeys members memberTexts) :
    GroupWire.requireAdminsAreMembers admins members = .ok () ↔
      TypeScript.requireAdminsAreMembers adminTexts memberTexts = .ok () := by
  have hempty : admins = [] ↔ adminTexts = [] := by
    constructor
    · rintro rfl
      rw [List.eq_nil_iff_forall_not_mem]
      intro text hmem
      obtain ⟨key, hkey, -⟩ := (hadmins text).mp hmem
      cases hkey
    · rintro rfl
      rw [List.eq_nil_iff_forall_not_mem]
      intro key hmem
      cases (hadmins _).mpr ⟨key, hmem, rfl⟩
  have hwithin : (∀ admin ∈ admins, admin ∈ members) ↔
      ∀ text ∈ adminTexts, text ∈ memberTexts := by
    constructor
    · intro hall text hmem
      obtain ⟨key, hkey, rfl⟩ := (hadmins text).mp hmem
      exact (hmembers _).mpr ⟨key, hall key hkey, rfl⟩
    · intro hall admin hmem
      obtain ⟨key, hkey, hsame⟩ := (hmembers _).mp (hall _ ((hadmins _).mpr ⟨admin, hmem, rfl⟩))
      have heq : key = admin := by
        cases key
        cases admin
        exact congrArg OwnerPubkey.mk (laws.injective _ _ hsame)
      rw [← heq]
      exact hkey
  have hleft : GroupWire.requireAdminsAreMembers admins members = .ok () ↔
      admins ≠ [] ∧ ∀ admin ∈ admins, admin ∈ members := by
    unfold GroupWire.requireAdminsAreMembers
    rw [except_bind_eq_ok]
    simp [NostrDoubleRatchet.ensure_eq_ok]
  have hright : TypeScript.requireAdminsAreMembers adminTexts memberTexts = .ok () ↔
      adminTexts ≠ [] ∧ ∀ text ∈ adminTexts, text ∈ memberTexts := by
    unfold TypeScript.requireAdminsAreMembers
    by_cases hnil : adminTexts = []
    · simp [hnil]
    · simp [hnil]
  rw [hleft, hright, hwithin, ne_eq, hempty]

variable [GroupWire.WirePrimitives K T] [DecidableEq T]

/-- One rumor, as each library holds it. -/
structure SameRumor (event : GroupWire.UnsignedEvent K T) (rumor : TypeScript.Rumor) : Prop where
  pubkey : rumor.pubkey = Primitives.toHex event.pubkey
  kind : rumor.kind = event.kind
  tags : rumor.tags = event.tags
  content : rumor.content = "" ↔ event.content = GroupWire.WirePrimitives.emptyText K

omit [LinearOrder K] [EventPrimitives K] [GroupWire.WirePrimitives K T] [Primitives K T]
  [DecidableEq T] in
theorem isGroupRosterFactEvent_eq {event : GroupWire.UnsignedEvent K T} {rumor : TypeScript.Rumor}
    (hkind : rumor.kind = event.kind) (htags : rumor.tags = event.tags)
    (h : PlainTags event.tags) :
    GroupWire.isGroupRosterFactEvent event = TypeScript.isGroupRosterFactEvent rumor := by
  unfold GroupWire.isGroupRosterFactEvent TypeScript.isGroupRosterFactEvent
  rw [hkind, htags, tagValues_eq h, List.contains_eq_any_beq]
  congr 2
  funext value
  rw [Bool.beq_comm, beq_eq_decide]
  rfl

omit [LinearOrder K] [EventPrimitives K] [GroupWire.WirePrimitives K T] [Primitives K T]
  [DecidableEq T] in
theorem rosterProtocol_iff {event : GroupWire.UnsignedEvent K T} (h : PlainTags event.tags)
    {protocol : GroupProtocol} :
    GroupWire.rosterProtocol event = .ok protocol ↔
      ∃ named, TypeScript.parseGroupRosterProtocol
        (TypeScript.firstTagValue event.tags "protocol") = .ok named ∧
          protocolOf named = protocol := by
  unfold GroupWire.rosterProtocol TypeScript.firstTagValue
  rw [tagValues_eq h]
  cases (TypeScript.tagValues event.tags "protocol").head? with
  | none =>
      constructor
      · intro hok
        cases hok
        exact ⟨none, rfl, rfl⟩
      · rintro ⟨named, hnamed, rfl⟩
        cases hnamed
        rfl
  | some value =>
      dsimp only
      unfold GroupWire.groupProtocolFromTag
      by_cases hpairwise : value = "pairwise_fanout_v1"
      · subst hpairwise
        constructor
        · intro hok
          cases hok
          exact ⟨some .pairwiseFanoutV1, rfl, rfl⟩
        · rintro ⟨named, hnamed, rfl⟩
          cases hnamed
          rfl
      by_cases hsender : value = "sender_key_v1"
      · subst hsender
        constructor
        · intro hok
          cases hok
          exact ⟨some .senderKeyV1, rfl, rfl⟩
        · rintro ⟨named, hnamed, rfl⟩
          cases hnamed
          rfl
      · rw [if_neg hpairwise, if_neg hsender]
        constructor
        · intro hok
          cases hok
        · rintro ⟨named, hnamed, -⟩
          unfold TypeScript.parseGroupRosterProtocol at hnamed
          split at hnamed
          · contradiction
          · rename_i heq
            exact absurd (Option.some.inj heq) hpairwise
          · rename_i heq
            exact absurd (Option.some.inj heq) hsender
          · cases hnamed

end Reading

/-! Keys as the texts that stand for them. -/

theorem lowerHex_lowerHex (text : String) : lowerHex (lowerHex text) = lowerHex text := by
  unfold lowerHex
  rw [String.toList_ofList, List.map_map]
  congr 1
  apply List.map_congr_left
  intro c _
  exact toLower_toLower c

/-- 32 bytes, given by their hexadecimal text. -/
structure HexKey where
  text : String
  hex : TypeScript.isHex64 text = true
  lower : lowerHex text = text
  deriving DecidableEq

namespace HexKey

instance : LinearOrder HexKey :=
  LinearOrder.lift' HexKey.text (fun a b h => by cases a; cases b; cases h; rfl)

def zeros : String := "0000000000000000000000000000000000000000000000000000000000000000"

def zero : HexKey := ⟨zeros, by decide +kernel, by decide +kernel⟩

def decode (text : String) : Except String (Option HexKey) :=
  if h : TypeScript.isHex64 text = true then
    .ok (some ⟨lowerHex text, by rw [isHex64_lowerHex]; exact h, lowerHex_lowerHex text⟩)
  else .error "Invalid character"

/-- Of the library only the hexadecimal texts are read here. -/
@[reducible] def primitives : Primitives HexKey String where
  secretKeyFromSlice := .ok
  publicKeyFromSlice := .ok
  publicKey := id
  conversationKey _ theirs := .ok theirs
  hkdf key _ _ := key
  encryptToBytes _ _ text := .ok text
  decryptToBytes _ text := .ok text
  nip44Encrypt _ _ _ text := .ok text
  nip44Decrypt _ _ text := .ok text
  base64Encode := id
  base64Decode := .ok
  headerToJson _ := ""
  headerFromJson _ := .error "invalid json"
  sha256 _ _ := zero
  scalarFromBytes := some
  isZeroScalar _ := false
  xonlyIsValid _ := true
  xonlyAddTweak key _ := some key
  hasOddY _ := false
  negateSecret := id
  secretAddTweak key _ := some key
  toHex := HexKey.text

@[reducible] def eventPrimitives : EventPrimitives HexKey where
  verifyEvent _ := true
  jsonLength event := .ok event.content.length
  hexDecode := decode

@[reducible] def wirePrimitives : GroupWire.WirePrimitives HexKey String where
  eventId pubkey _ _ _ _ := pubkey
  parseTag := .ok
  eventToJson _ := .error "not written"
  eventFromJson _ := .error "invalid json"
  envelopeToJson _ := .error "not written"
  envelopeFromJson _ := .error "invalid json"
  distributionToJson _ := .error "not written"
  distributionFromJson _ := .error "invalid json"
  repairRequestToJson _ := .error "not written"
  repairRequestFromJson _ := .error "invalid json"
  stringFromUtf8 := .ok
  emptyText := ""

attribute [local instance] primitives eventPrimitives wirePrimitives

theorem laws : HexLaws HexKey String where
  reads text h := by
    refine ⟨⟨lowerHex text, by rw [isHex64_lowerHex]; exact h, lowerHex_lowerHex text⟩, ?_, rfl⟩
    change decode text = _
    rw [decode, dif_pos h]
  rejects text key h := by
    change decode text = _ at h
    unfold decode at h
    split at h
    · rename_i hhex
      exact hhex
    · cases h
  writes key := key.hex
  injective a b h := by
    cases a
    cases b
    cases h
    rfl

/-- A roster of one member, with the schema and the name as given. -/
def rosterTags (schema name : String) : List (List String) :=
  [["d", "g"], ["i", "g", "subject"], ["type", "group_roster"], ["schema", schema],
    ["group_id", "g"], ["revision", "1"], ["name", name], ["created_at", "1"],
    ["updated_at", "2"], ["created_by", zeros], ["member", zeros], ["admin", zeros]]

def rosterEvent (schema name : String) : GroupWire.UnsignedEvent HexKey String :=
  ⟨none, zero, 0, 37368, rosterTags schema name, ""⟩

def rosterRumor (schema name : String) : TypeScript.Rumor :=
  ⟨"", zeros, 37368, 0, rosterTags schema name, ""⟩

theorem sameRumor (schema name : String) :
    SameRumor (rosterEvent schema name) (rosterRumor schema name) :=
  ⟨rfl, rfl, rfl, ⟨fun _ => rfl, fun _ => rfl⟩⟩

theorem exists_of_mem_tagValues {tags : List (List String)} {key value : String}
    (h : value ∈ TypeScript.tagValues tags key) :
    ∃ tag ∈ tags, ∃ raw, tag[1]? = some raw ∧ value = TypeScript.jsTrim raw := by
  have hne := TypeScript.tagValues_ne_empty h
  unfold TypeScript.tagValues at h
  obtain ⟨tag, htag, rfl⟩ := List.mem_map.mp (List.mem_filter.mp h).1
  cases hraw : tag[1]? with
  | none =>
      rw [hraw] at hne
      exact absurd rfl hne
  | some raw => exact ⟨tag, (List.mem_filter.mp htag).1, raw, hraw, rfl⟩

theorem plainTags_of_all {tags : List (List String)}
    (h : (tags.all fun tag => tag[1]?.all fun value => trim value = TypeScript.jsTrim value ∧
      (TypeScript.jsTrim value).toList.head? ≠ some '+') = true) : PlainTags tags := by
  have htag : ∀ tag ∈ tags, ∀ value, tag[1]? = some value → trim value = TypeScript.jsTrim value ∧
      (TypeScript.jsTrim value).toList.head? ≠ some '+' := by
    intro tag hmem value hvalue
    have hall := List.all_eq_true.mp h tag hmem
    rw [hvalue, Option.all_some, decide_eq_true_eq] at hall
    exact hall
  refine ⟨fun tag hmem value hvalue => (htag tag hmem value hvalue).1, ?_⟩
  intro key _ value hmem
  obtain ⟨tag, hin, raw, hraw, rfl⟩ := exists_of_mem_tagValues hmem
  exact (htag tag hin raw hraw).2

theorem safeNumbers_of_all {tags : List (List String)}
    (h : (tags.all fun tag => tag[1]?.all fun value =>
      Nat.ofDigitChars 10 (TypeScript.jsTrim value).toList 0 < 9007199254740992) = true) :
    SafeNumbers tags := by
  have hbound : 2 ^ 53 = 9007199254740992 := by decide
  intro key _ value hmem _
  obtain ⟨tag, hin, raw, hraw, rfl⟩ := exists_of_mem_tagValues hmem
  have hall := List.all_eq_true.mp h tag hin
  rw [hraw, Option.all_some, decide_eq_true_eq] at hall
  rw [hbound]
  exact hall

end HexKey

end NostrDoubleRatchet.RosterAgreement
