import Mathlib.Data.Prod.Lex
import NostrDoubleRatchet.Lib.Selection
import NostrDoubleRatchet.TypeScript.RosterAgreement

/-!
Two projections of signed roster facts to one fact for each group,
`project_group_roster_fact_events` of `group_wire.rs` and `projectGroupRosterFactEvents` of
`GroupMeta.ts`. Each takes the greatest fact of a group, but in an order of its own: where two
facts have one revision and one time of update, the first goes on to the event id and the second
to the time of the event.
-/

namespace NostrDoubleRatchet.RosterProjection

open Selection

/-! ## Tag values

What both clients read from one tag comes from one text. -/

section Texts

/-- The values of the tags that `p` selects, as they were sent. -/
def rawValues (tags : List (List String)) (p : List String → Bool) : List String :=
  tags.filterMap (fun tag => if p tag then tag[1]? else none)

theorem rustValues_eq (tags : List (List String)) (p : List String → Bool) :
    tags.filterMap (fun values => if p values then values[1]?.map trim else none) =
      (rawValues tags p).map trim := by
  unfold rawValues
  rw [List.map_filterMap]
  congr 1
  funext tag
  by_cases hp : p tag = true
  · simp [hp]
  · simp [hp]

theorem jsValues_eq (tags : List (List String)) (p : List String → Bool) :
    ((tags.filter p).map (fun tag => (tag[1]?.map TypeScript.jsTrim).getD "")).filter (· ≠ "") =
      ((rawValues tags p).map TypeScript.jsTrim).filter (· ≠ "") := by
  induction tags with
  | nil => rfl
  | cons tag rest ih =>
      by_cases hp : p tag = true
      · rw [List.filter_cons_of_pos hp, List.map_cons]
        unfold rawValues at ih ⊢
        cases hvalue : tag[1]? with
        | none =>
            rw [List.filterMap_cons_none (by rw [if_pos hp, hvalue])]
            exact ih
        | some value =>
            rw [List.filterMap_cons_some (by rw [if_pos hp, hvalue]), List.map_cons,
              List.filter_cons, List.filter_cons, ih]
            rfl
      · rw [List.filter_cons_of_neg hp]
        unfold rawValues at ih ⊢
        rw [List.filterMap_cons_none (by rw [if_neg hp])]
        exact ih

theorem jsTrim_eq_trimBy (text : String) :
    TypeScript.jsTrim text = String.ofList (trimBy TypeScript.isJsWhitespace text.toList) := rfl

theorem ofList_ne_empty {chars : List Char} (h : String.ofList chars ≠ "") : chars ≠ [] := by
  rintro rfl
  exact h rfl

/-- The first values that are not blank to either client come from one text, if neither value is
blank to the other client. -/
theorem exists_raw_of_head? {raws : List String} {v w : String}
    (hv : ((raws.map trim).filter (· ≠ "")).head? = some v)
    (hw : ((raws.map TypeScript.jsTrim).filter (· ≠ "")).head? = some w)
    (hvisible : ∃ c ∈ v.toList, TypeScript.isJsWhitespace c = false)
    (wvisible : ∃ c ∈ w.toList, isWhitespace c = false) :
    ∃ raw ∈ raws, trim raw = v ∧ TypeScript.jsTrim raw = w := by
  induction raws with
  | nil => cases hv
  | cons raw rest ih =>
      rw [List.map_cons, List.filter_cons] at hv hw
      by_cases hrust : trim raw = ""
      · rw [if_neg (by simp [hrust])] at hv
        by_cases hjs : TypeScript.jsTrim raw = ""
        · rw [if_neg (by simp [hjs])] at hw
          obtain ⟨found, hmem, hfound⟩ := ih hv hw
          exact ⟨found, List.mem_cons_of_mem _ hmem, hfound⟩
        · rw [if_pos (by simp [hjs])] at hw
          obtain ⟨c, hc, hwhite⟩ := wvisible
          cases hw
          rw [jsTrim_eq_trimBy, String.toList_ofList] at hc
          have hblank : trimBy isWhitespace raw.toList = [] := by
            rw [trim_eq_trimBy] at hrust
            simpa using congrArg String.toList hrust
          rw [forall_of_trimBy_eq_nil hblank c (mem_of_mem_trimBy hc)] at hwhite
          cases hwhite
      · rw [if_pos (by simp [hrust])] at hv
        cases hv
        by_cases hjs : TypeScript.jsTrim raw = ""
        · obtain ⟨c, hc, hwhite⟩ := hvisible
          rw [trim_eq_trimBy, String.toList_ofList] at hc
          have hblank : trimBy TypeScript.isJsWhitespace raw.toList = [] := by
            rw [jsTrim_eq_trimBy] at hjs
            simpa using congrArg String.toList hjs
          rw [forall_of_trimBy_eq_nil hblank c (mem_of_mem_trimBy hc)] at hwhite
          cases hwhite
        · rw [if_pos (by simp [hjs])] at hw
          cases hw
          exact ⟨raw, List.mem_cons_self, rfl, rfl⟩

theorem isJsWhitespace_of_isDigit {c : Char} (h : c.isDigit = true) :
    TypeScript.isJsWhitespace c = false := by
  apply RosterAgreement.isJsWhitespace_of_isAsciiHexDigit
  simp [isAsciiHexDigit, h]

/-- A number is that of the digits of its text. -/
def digitsValue (text : String) : Nat := Nat.ofDigitChars 10 (text.toList.filter Char.isDigit) 0

theorem parseUnsigned_digits {max n : Nat} {value : String}
    (h : GroupWire.parseUnsigned max value = .ok n) :
    (∃ c ∈ value.toList, c.isDigit = true) ∧ n = digitsValue value := by
  have hdigits : ∀ digits : List Char, digits ≠ [] → GroupWire.parseDigits max digits 0 = .ok n →
      (∃ c ∈ digits, c.isDigit = true) ∧
        n = Nat.ofDigitChars 10 (digits.filter Char.isDigit) 0 := by
    intro digits hne hok
    rw [GroupWire.parseDigits_eq_ok (Nat.zero_le _)] at hok
    obtain ⟨hall, hvalue, -⟩ := hok
    rw [List.filter_eq_self.mpr hall, Nat.ofDigitChars_eq_foldl]
    obtain ⟨c, hc⟩ := List.exists_mem_of_ne_nil digits hne
    exact ⟨⟨c, hc, hall c hc⟩, hvalue.symm⟩
  unfold digitsValue
  unfold GroupWire.parseUnsigned at h
  split at h
  · cases h
  · cases h
  · rename_i digits hplus htext
    obtain ⟨⟨c, hc, hdigit⟩, hn⟩ := hdigits digits (fun hnil => hplus (by rw [hnil])) h
    rw [htext, List.filter_cons_of_neg (by decide)]
    exact ⟨⟨c, List.mem_cons_of_mem _ hc, hdigit⟩, hn⟩
  · rename_i hempty _ _
    exact hdigits _ (fun hnil => hempty hnil) h

theorem requireNonNegativeInteger_digits {value label : String} {n : Nat}
    (htrim : TypeScript.jsTrim value = value)
    (h : TypeScript.requireNonNegativeInteger value label = .ok n) :
    (∃ c ∈ value.toList, c.isDigit = true) ∧ n = digitsValue value := by
  unfold TypeScript.requireNonNegativeInteger at h
  rw [htrim] at h
  dsimp only at h
  split at h
  · cases h
  · rename_i hdigits
    rw [not_or, not_not] at hdigits
    have hall := List.all_eq_true.mp hdigits.2
    split at h
    · cases h
    · cases h
      unfold digitsValue
      rw [List.filter_eq_self.mpr hall]
      obtain ⟨c, hc⟩ := List.exists_mem_of_ne_nil _ hdigits.1
      exact ⟨⟨c, hc, hall c hc⟩, rfl⟩

theorem digitsValue_trim (text : String) : digitsValue (trim text) = digitsValue text := by
  unfold digitsValue
  rw [trim_eq_trimBy, String.toList_ofList, filter_trimBy fun c => isWhitespace_of_isDigit]

theorem digitsValue_jsTrim (text : String) :
    digitsValue (TypeScript.jsTrim text) = digitsValue text := by
  unfold digitsValue
  rw [jsTrim_eq_trimBy, String.toList_ofList, filter_trimBy fun c => isJsWhitespace_of_isDigit]

def hasKey (key : String) (tag : List String) : Bool := tag.head? = some key

def isSubject (tag : List String) : Bool := tag.head? = some "i" && tag[2]? = some "subject"

theorem rustTagValues_eq (tags : List (List String)) (key : String) :
    GroupWire.tagValues tags key = ((rawValues tags (hasKey key)).map trim).filter (· ≠ "") := by
  rw [← rustValues_eq]
  unfold GroupWire.tagValues hasKey
  congr 2
  funext values
  by_cases hhead : values.head? = some key
  · simp [hhead]
  · simp [hhead]

theorem jsTagValues_eq (tags : List (List String)) (key : String) :
    TypeScript.tagValues tags key =
      ((rawValues tags (hasKey key)).map TypeScript.jsTrim).filter (· ≠ "") :=
  jsValues_eq tags (hasKey key)

/-- Where both clients read a number from a tag, they read the same one. -/
theorem numbers_agree {K T : Type} {event : GroupWire.UnsignedEvent K T} {key : String} {n m : Nat}
    (hrust : GroupWire.requiredU64 event key = .ok n)
    (hjs : TypeScript.requireTagInteger event.tags key = .ok m) : n = m := by
  unfold GroupWire.requiredU64 at hrust
  unfold TypeScript.requireTagInteger at hjs
  rw [except_bind_eq_ok] at hrust hjs
  obtain ⟨v, hv, hn⟩ := hrust
  obtain ⟨w, hw, hm⟩ := hjs
  have htrim := RosterAgreement.jsTrim_of_mem_tagValues
    (RosterAgreement.mem_tagValues_of_requireTagValue hw)
  obtain ⟨⟨c, hc, hdigit⟩, rfl⟩ := requireNonNegativeInteger_digits htrim hm
  split at hn
  · rename_i number hnumber
    cases hn
    obtain ⟨⟨d, hd, hdigit'⟩, rfl⟩ := parseUnsigned_digits hnumber
    have hvhead : (GroupWire.tagValues event.tags key).head? = some v := by
      unfold GroupWire.requiredValue at hv
      split at hv
      · rename_i found hfound
        cases hv
        exact hfound
      · cases hv
    have hwhead : (TypeScript.tagValues event.tags key).head? = some w := by
      unfold TypeScript.requireTagValue at hw
      split at hw
      · cases hw
      · rename_i found hfound
        cases hw
        exact hfound
    rw [rustTagValues_eq] at hvhead
    rw [jsTagValues_eq] at hwhead
    obtain ⟨raw, -, rfl, rfl⟩ := exists_raw_of_head? hvhead hwhead
      ⟨d, hd, isJsWhitespace_of_isDigit hdigit'⟩ ⟨c, hc, isWhitespace_of_isDigit hdigit⟩
    rw [digitsValue_trim, digitsValue_jsTrim]
  · cases hn

theorem rustGroupId_subjects {tags : List (List String)} {groupId : String}
    (h : GroupWire.groupIdFromTags tags = .ok groupId) :
    ((rawValues tags isSubject).map trim).filter (· ≠ "") = [groupId] := by
  rw [← rustValues_eq]
  unfold GroupWire.groupIdFromTags at h
  dsimp only at h
  split at h
  · rename_i found hfound
    have hsame : groupId = found := by
      split at h
      · cases h
      · split at h
        · cases h
        · cases h
          rfl
    rw [hsame, ← hfound]
    unfold isSubject
    congr 2
    funext values
    simp
  · cases h

theorem jsGroupId_subjects {tags : List (List String)} {groupId : String}
    (h : TypeScript.groupIdFromTags tags = .ok groupId) :
    ((rawValues tags isSubject).map TypeScript.jsTrim).filter (· ≠ "") = [groupId] := by
  rw [← jsValues_eq]
  unfold TypeScript.groupIdFromTags at h
  dsimp only at h
  split at h
  · rename_i found hfound
    have hsame : groupId = found := by
      rw [except_bind_eq_ok] at h
      obtain ⟨d, -, h⟩ := h
      split at h
      · cases h
      · cases h
        rfl
    rw [hsame]
    exact hfound
  · cases h

theorem exists_visible {p : Char → Bool} {text : String} (hne : text ≠ "")
    (h : String.ofList (trimBy p text.toList) = text) : ∃ c ∈ text.toList, p c = false := by
  have hfixed : trimBy p text.toList = text.toList := by
    simpa using congrArg String.toList h
  have hchars : text.toList ≠ [] := fun hnil => hne (String.toList_inj.mp hnil)
  cases htext : text.toList with
  | nil => exact absurd htext hchars
  | cons c rest =>
      have hhead := (trimBy_eq_self_iff.mp hfixed).1 c (by rw [htext]; rfl)
      exact ⟨c, List.mem_cons_self, hhead⟩

/-- A group id that either client could have read is read alike by both. -/
theorem groupIds_agree {tags : List (List String)} {g h : String}
    (hrust : GroupWire.groupIdFromTags tags = .ok g)
    (hjs : TypeScript.groupIdFromTags tags = .ok h)
    (hg : TypeScript.jsTrim g = g) (hh : trim h = h) : g = h := by
  have hsubjects := rustGroupId_subjects hrust
  have hsubjects' := jsGroupId_subjects hjs
  have hgne : g ≠ "" := by
    have hmem := List.mem_filter.mp (hsubjects ▸ List.mem_singleton_self g)
    simpa using hmem.2
  have hhne : h ≠ "" := TypeScript.groupIdFromTags_ne_empty hjs
  obtain ⟨raw, -, hraw, hraw'⟩ := exists_raw_of_head? (v := g) (w := h)
    (by rw [hsubjects]; rfl) (by rw [hsubjects']; rfl) (exists_visible hgne hg)
    (exists_visible hhne hh)
  rw [← hraw, jsTrim_eq_trimBy, trim_eq_trimBy, String.toList_ofList] at hg
  rw [← hraw', jsTrim_eq_trimBy, trim_eq_trimBy, String.toList_ofList] at hh
  rw [← hraw, ← hraw', jsTrim_eq_trimBy, trim_eq_trimBy,
    trimBy_eq_of_fixed (String.ofList_injective hg) (String.ofList_injective hh)]

theorem trim_rustGroupId {tags : List (List String)} {groupId : String}
    (h : GroupWire.groupIdFromTags tags = .ok groupId) : trim groupId = groupId := by
  have hmem := (List.mem_filter.mp (rustGroupId_subjects h ▸ List.mem_singleton_self groupId)).1
  obtain ⟨raw, -, rfl⟩ := List.mem_map.mp hmem
  exact trimmed_trim raw

theorem jsTrim_jsGroupId {tags : List (List String)} {groupId : String}
    (h : TypeScript.groupIdFromTags tags = .ok groupId) :
    TypeScript.jsTrim groupId = groupId := by
  have hmem := (List.mem_filter.mp (jsGroupId_subjects h ▸ List.mem_singleton_self groupId)).1
  obtain ⟨raw, -, rfl⟩ := List.mem_map.mp hmem
  exact RosterAgreement.jsTrim_jsTrim raw

end Texts

/-! ## Facts and their order -/

section Facts

variable {K T : Type} [LinearOrder K] [Primitives K T] [EventPrimitives K]

def isHexText (text : String) : Bool :=
  text.toList.all (fun c => c.isDigit || (0x61 ≤ c.toNat && c.toNat ≤ 0x66))

variable (K) in
/-- Bytes are written as lower case digits, and an event that verifies has the hash of its
contents as its id. -/
structure EventLaws : Prop where
  hexDigits : ∀ key : K, isHexText (Primitives.toHex key) = true
  hexInjective : ∀ a b : K, Primitives.toHex a = Primitives.toHex b → a = b
  idBinds : ∀ a b : Event K, EventPrimitives.verifyEvent a = true →
    EventPrimitives.verifyEvent b = true → a.id = b.id → { a with sig := b.sig } = b

/-- `localeCompare` is a consistent comparison, and puts digits before letters. -/
structure LocaleLaws (localeCompare : String → String → Ordering) : Prop where
  consistent : Std.TransCmp localeCompare
  hexDigits : ∀ a b, isHexText a = true → isHexText b = true → localeCompare a b = compare a b

/-- The event as the TypeScript client receives it. -/
def wireEvent (event : Event K) : TypeScript.VerifiedEvent :=
  ⟨Primitives.toHex event.id, event.sig, Primitives.toHex event.pubkey, event.kind,
    event.createdAt, event.tags, event.content⟩

variable (verifyEvent : TypeScript.VerifiedEvent → Bool)
  (localeCompare : String → String → Ordering)

/-- What both clients take from an event. -/
structure Reads (event : Event K) (rust : GroupWire.GroupRosterFact K)
    (js : TypeScript.GroupRosterFact) : Prop where
  verified : EventPrimitives.verifyEvent event = true
  rustId : rust.eventId = event.id
  jsId : js.eventId = Primitives.toHex event.id
  rustGroup : GroupWire.groupIdFromTags event.tags = .ok rust.groupId
  jsGroup : TypeScript.groupIdFromTags event.tags = .ok js.groupId
  revision : rust.revision = js.revision
  updatedAt : rust.snapshot.updatedAt = js.updatedAt
  createdAt : js.eventCreatedAt = event.createdAt

variable {verifyEvent} in
theorem reads_of_parsed {event : Event K} {rust : GroupWire.GroupRosterFact K}
    {js : TypeScript.GroupRosterFact} (hrust : GroupWire.parseGroupRosterFactEvent event = .ok rust)
    (hjs : TypeScript.parseGroupRosterFactEvent verifyEvent (wireEvent event) = .ok js) :
    Reads event rust js := by
  unfold GroupWire.parseGroupRosterFactEvent at hrust
  simp only [except_bind_eq_ok, NostrDoubleRatchet.ensure_eq_ok] at hrust
  obtain ⟨-, hverified, -, -, -, -, schema, -, -, -, groupId, hgroup, -, -, members, -, admins, -,
    -, -, -, -, protocol, -, revision, hrevision, name, -, creator, -, createdBy, -, createdAt, -,
    updatedAt, hupdatedAt, hok⟩ := hrust
  cases hok
  unfold TypeScript.parseGroupRosterFactEvent TypeScript.parseGroupRosterFactWire at hjs
  simp only [except_bind_eq_ok, TypeScript.ensure_eq_ok] at hjs
  obtain ⟨-, -, fact, ⟨-, -, -, -, jsSchema, -, -, -, jsGroupId, hjsGroup, -, -, jsMembers, -,
    jsAdmins, -, -, -, signer, -, jsProtocol, -, jsName, -, jsCreatedAt, -, jsRevision,
    hjsRevision, jsCreator, -, jsCreatedBy, -, jsUpdatedAt, hjsUpdatedAt, hfact⟩, -, -, hok⟩ := hjs
  cases hfact
  cases hok
  exact ⟨hverified, rfl, rfl, hgroup, hjsGroup, numbers_agree hrevision hjsRevision,
    numbers_agree hupdatedAt hjsUpdatedAt, rfl⟩

def rustRank (fact : GroupWire.GroupRosterFact K) : ℕ ×ₗ ℕ ×ₗ String :=
  toLex (fact.revision, toLex (fact.snapshot.updatedAt, Primitives.toHex fact.eventId))

def jsRank (fact : TypeScript.GroupRosterFact) : ℕ ×ₗ ℕ ×ₗ ℕ ×ₗ String :=
  toLex (fact.revision, toLex (fact.updatedAt, toLex (fact.eventCreatedAt, fact.eventId)))

omit [EventPrimitives K] [LinearOrder K] in
theorem compareGroupRosterFacts_isGT {left right : GroupWire.GroupRosterFact K} :
    (GroupWire.compareGroupRosterFacts left right).isGT = true ↔
      rustRank right < rustRank left := by
  unfold GroupWire.compareGroupRosterFacts rustRank
  rw [Ordering.isGT_iff_eq_gt, Ordering.then_eq_gt, Ordering.then_eq_gt, compare_gt_iff_gt,
    compare_gt_iff_gt, compare_gt_iff_gt, compare_eq_iff_eq, compare_eq_iff_eq,
    Prod.Lex.toLex_lt_toLex, Prod.Lex.toLex_lt_toLex]
  simp only [eq_comm]

variable {localeCompare} in
theorem jsCompareGroupRosterFacts_isGT (laws : LocaleLaws localeCompare)
    {left right : TypeScript.GroupRosterFact} (hleft : isHexText left.eventId = true)
    (hright : isHexText right.eventId = true) :
    (TypeScript.compareGroupRosterFacts localeCompare left right).isGT = true ↔
      jsRank right < jsRank left := by
  unfold TypeScript.compareGroupRosterFacts jsRank
  rw [laws.hexDigits _ _ hleft hright, Ordering.isGT_iff_eq_gt, Ordering.then_eq_gt,
    Ordering.then_eq_gt, Ordering.then_eq_gt, compare_gt_iff_gt, compare_gt_iff_gt,
    compare_gt_iff_gt, compare_gt_iff_gt, compare_eq_iff_eq, compare_eq_iff_eq, compare_eq_iff_eq,
    Prod.Lex.toLex_lt_toLex, Prod.Lex.toLex_lt_toLex, Prod.Lex.toLex_lt_toLex]
  simp only [eq_comm]

omit [EventPrimitives K] [LinearOrder K] in
theorem get?_keepRosterFact (byGroup : SortedMap String (GroupWire.GroupRosterFact K))
    (fact : GroupWire.GroupRosterFact K) (g : String) :
    (GroupWire.keepRosterFact byGroup fact).get? g =
      if fact.groupId = g then greater rustRank (byGroup.get? g) fact else byGroup.get? g := by
  unfold GroupWire.keepRosterFact
  cases hcurrent : byGroup.get? fact.groupId with
  | none =>
      dsimp only
      rw [if_pos rfl, SortedMap.get?_insert]
      by_cases hg : fact.groupId = g
      · subst hg
        rw [if_pos rfl, if_pos rfl, hcurrent]
        rfl
      · rw [if_neg hg, if_neg hg]
  | some current =>
      have hgreater := (compareGroupRosterFacts_isGT : _ ↔ rustRank current < rustRank fact)
      dsimp only
      by_cases hg : fact.groupId = g
      · subst hg
        rw [if_pos rfl, hcurrent, greater_some]
        by_cases hlt : rustRank current < rustRank fact
        · rw [if_pos (hgreater.mpr hlt), if_pos hlt, SortedMap.get?_insert_self]
        · rw [if_neg (fun h => hlt (hgreater.mp h)), if_neg hlt, hcurrent]
      · rw [if_neg hg]
        split
        · rw [SortedMap.get?_insert_ne _ _ hg]
        · rfl

variable {localeCompare} in
theorem jsGet?_keepRosterFact (laws : LocaleLaws localeCompare)
    (byGroup : InsertionMap String TypeScript.GroupRosterFact) (fact : TypeScript.GroupRosterFact)
    (hfact : isHexText fact.eventId = true)
    (hall : ∀ g other, byGroup.get? g = some other → isHexText other.eventId = true)
    (g : String) :
    (TypeScript.keepRosterFact localeCompare byGroup fact).get? g =
      if fact.groupId = g then greater jsRank (byGroup.get? g) fact else byGroup.get? g := by
  unfold TypeScript.keepRosterFact
  cases hcurrent : byGroup.get? fact.groupId with
  | none =>
      dsimp only
      rw [InsertionMap.get?_set]
      by_cases hg : fact.groupId = g
      · subst hg
        rw [if_pos rfl, if_pos rfl, hcurrent]
        rfl
      · rw [if_neg hg, if_neg hg]
  | some current =>
      have hgreater := jsCompareGroupRosterFacts_isGT laws hfact (hall _ _ hcurrent)
      dsimp only
      by_cases hg : fact.groupId = g
      · subst hg
        rw [if_pos rfl, hcurrent, greater_some]
        by_cases hlt : jsRank current < jsRank fact
        · rw [if_pos (hgreater.mpr hlt), if_pos hlt, InsertionMap.get?_set, if_pos rfl]
        · rw [if_neg (fun h => hlt (hgreater.mp h)), if_neg hlt, hcurrent]
      · rw [if_neg hg]
        split
        · rw [InsertionMap.get?_set, if_neg hg]
        · rfl

def rustFacts (events : List (Event K)) : List (GroupWire.GroupRosterFact K) :=
  events.filterMap (fun event => (GroupWire.parseGroupRosterFactEvent event).toOption)

def jsFacts (events : List (Event K)) : List TypeScript.GroupRosterFact :=
  (events.map wireEvent).filterMap
    (fun event => (TypeScript.parseGroupRosterFactEvent verifyEvent event).toOption)

theorem get?_groupRosterFactsByGroup (events : List (Event K)) (g : String) :
    (GroupWire.groupRosterFactsByGroup events).get? g =
      selected GroupWire.GroupRosterFact.groupId rustRank (rustFacts events) g :=
  get_foldl_eq_selected SortedMap.get? GroupWire.keepRosterFact (fun _ => True) (fun _ => rfl)
    (fun m a _ _ => get?_keepRosterFact m a) (fun _ _ => trivial) g

theorem mem_rustFacts {events : List (Event K)} {fact : GroupWire.GroupRosterFact K} :
    fact ∈ rustFacts events ↔
      ∃ event ∈ events, GroupWire.parseGroupRosterFactEvent event = .ok fact := by
  unfold rustFacts
  rw [List.mem_filterMap]
  constructor
  · rintro ⟨event, hmem, hfact⟩
    refine ⟨event, hmem, ?_⟩
    cases hparsed : GroupWire.parseGroupRosterFactEvent event with
    | error e =>
        rw [hparsed] at hfact
        cases hfact
    | ok found =>
        rw [hparsed] at hfact
        cases hfact
        rfl
  · rintro ⟨event, hmem, hparsed⟩
    exact ⟨event, hmem, by rw [hparsed]; rfl⟩

variable {verifyEvent}

omit [LinearOrder K] [EventPrimitives K] in
theorem mem_jsFacts {events : List (Event K)} {fact : TypeScript.GroupRosterFact} :
    fact ∈ jsFacts verifyEvent events ↔ ∃ event ∈ events,
      TypeScript.parseGroupRosterFactEvent verifyEvent (wireEvent event) = .ok fact := by
  unfold jsFacts
  rw [List.mem_filterMap]
  constructor
  · rintro ⟨_, hmem, hfact⟩
    obtain ⟨event, hevent, rfl⟩ := List.mem_map.mp hmem
    refine ⟨event, hevent, ?_⟩
    cases hparsed : TypeScript.parseGroupRosterFactEvent verifyEvent (wireEvent event) with
    | error e =>
        rw [hparsed] at hfact
        cases hfact
    | ok found =>
        rw [hparsed] at hfact
        cases hfact
        rfl
  · rintro ⟨event, hmem, hparsed⟩
    exact ⟨wireEvent event, List.mem_map_of_mem hmem, by rw [hparsed]; rfl⟩

omit [LinearOrder K] [EventPrimitives K] in
theorem jsParsed_id {event : Event K} {fact : TypeScript.GroupRosterFact}
    (h : TypeScript.parseGroupRosterFactEvent verifyEvent (wireEvent event) = .ok fact) :
    fact.eventId = Primitives.toHex event.id := by
  unfold TypeScript.parseGroupRosterFactEvent TypeScript.parseGroupRosterFactWire at h
  simp only [except_bind_eq_ok, TypeScript.ensure_eq_ok] at h
  obtain ⟨-, -, found, ⟨-, -, -, -, schema, -, -, -, groupId, -, -, -, members, -,
    admins, -, -, -, signer, -, protocol, -, name, -, createdAt, -, revision, -, creator, -,
    createdBy, -, updatedAt, -, hfact⟩, -, -, hok⟩ := h
  cases hfact
  cases hok
  rfl

/-! Events of one id give one fact. -/

theorem rustParsed_inj (laws : EventLaws K) {a b : Event K} {left right : GroupWire.GroupRosterFact K}
    (hleft : GroupWire.parseGroupRosterFactEvent a = .ok left)
    (hright : GroupWire.parseGroupRosterFactEvent b = .ok right)
    (ha : EventPrimitives.verifyEvent a = true) (hb : EventPrimitives.verifyEvent b = true)
    (h : a.id = b.id) : left = right := by
  have hbinds := laws.idBinds a b ha hb h
  rw [← hbinds] at hright hb
  unfold GroupWire.parseGroupRosterFactEvent at hleft hright
  rw [ha] at hleft
  rw [hb] at hright
  have hsame := hleft.symm.trans hright
  cases hsame
  rfl

omit [LinearOrder K] in
theorem jsParsed_inj (laws : EventLaws K) {a b : Event K} {left right : TypeScript.GroupRosterFact}
    (hleft : TypeScript.parseGroupRosterFactEvent verifyEvent (wireEvent a) = .ok left)
    (hright : TypeScript.parseGroupRosterFactEvent verifyEvent (wireEvent b) = .ok right)
    (ha : EventPrimitives.verifyEvent a = true) (hb : EventPrimitives.verifyEvent b = true)
    (h : a.id = b.id) : left = right := by
  have hbinds := laws.idBinds a b ha hb h
  rw [← hbinds] at hright
  unfold TypeScript.parseGroupRosterFactEvent at hleft hright
  rw [except_bind_eq_ok] at hleft hright
  obtain ⟨-, -, hleft⟩ := hleft
  obtain ⟨-, -, hright⟩ := hright
  have hsame := hleft.symm.trans hright
  cases hsame
  rfl

variable (verifyEvent) in
/-- Both clients read every event of the list. -/
def Parsed (events : List (Event K)) : Prop :=
  ∀ event ∈ events, (GroupWire.parseGroupRosterFactEvent event).isOk = true ∧
    (TypeScript.parseGroupRosterFactEvent verifyEvent (wireEvent event)).isOk = true

theorem Parsed.reads {events : List (Event K)} (h : Parsed verifyEvent events) {event : Event K}
    (hmem : event ∈ events) : ∃ rust js,
      GroupWire.parseGroupRosterFactEvent event = .ok rust ∧
        TypeScript.parseGroupRosterFactEvent verifyEvent (wireEvent event) = .ok js ∧
          Reads event rust js := by
  obtain ⟨hrust, hjs⟩ := h event hmem
  cases hrustParsed : GroupWire.parseGroupRosterFactEvent event with
  | error e =>
      rw [hrustParsed] at hrust
      cases hrust
  | ok rust =>
      cases hjsParsed : TypeScript.parseGroupRosterFactEvent verifyEvent (wireEvent event) with
      | error e =>
          rw [hjsParsed] at hjs
          cases hjs
      | ok js => exact ⟨rust, js, rfl, rfl, reads_of_parsed hrustParsed hjsParsed⟩

theorem rustRank_inj (laws : EventLaws K) {events : List (Event K)}
    (h : Parsed verifyEvent events) : ∀ a ∈ rustFacts events, ∀ b ∈ rustFacts events,
      rustRank a = rustRank b → a = b := by
  intro left hleft right hright hrank
  obtain ⟨a, ha, hleft⟩ := mem_rustFacts.mp hleft
  obtain ⟨b, hb, hright⟩ := mem_rustFacts.mp hright
  obtain ⟨rust, js, hrust, -, hreads⟩ := h.reads ha
  obtain ⟨rust', js', hrust', -, hreads'⟩ := h.reads hb
  rw [hleft] at hrust
  rw [hright] at hrust'
  cases hrust
  cases hrust'
  have hid := congrArg (fun rank => (ofLex (ofLex rank).2).2) hrank
  have hids : a.id = b.id := by
    rw [← hreads.rustId, ← hreads'.rustId]
    exact laws.hexInjective _ _ hid
  exact rustParsed_inj laws hleft hright hreads.verified hreads'.verified hids

theorem jsRank_inj (laws : EventLaws K) {events : List (Event K)}
    (h : Parsed verifyEvent events) : ∀ a ∈ jsFacts verifyEvent events,
      ∀ b ∈ jsFacts verifyEvent events, jsRank a = jsRank b → a = b := by
  intro left hleft right hright hrank
  obtain ⟨a, ha, hleft⟩ := mem_jsFacts.mp hleft
  obtain ⟨b, hb, hright⟩ := mem_jsFacts.mp hright
  obtain ⟨rust, js, -, hjs, hreads⟩ := h.reads ha
  obtain ⟨rust', js', -, hjs', hreads'⟩ := h.reads hb
  rw [hleft] at hjs
  rw [hright] at hjs'
  cases hjs
  cases hjs'
  have hid := congrArg (fun rank => (ofLex (ofLex (ofLex rank).2).2).2) hrank
  have hids : a.id = b.id := by
    apply laws.hexInjective
    rw [← hreads.jsId, ← hreads'.jsId]
    exact hid
  exact jsParsed_inj laws hleft hright hreads.verified hreads'.verified hids

variable {localeCompare}

omit [LinearOrder K] in
theorem jsGet?_groupRosterFactsByGroup (laws : EventLaws K) (locale : LocaleLaws localeCompare)
    (events : List (Event K)) (g : String) :
    (TypeScript.groupRosterFactsByGroup verifyEvent localeCompare (events.map wireEvent)).get? g =
      selected TypeScript.GroupRosterFact.groupId jsRank (jsFacts verifyEvent events) g := by
  apply get_foldl_eq_selected InsertionMap.get? (TypeScript.keepRosterFact localeCompare)
    (fun fact => isHexText fact.eventId = true)
  · exact fun _ => rfl
  · exact fun m a ha hm => jsGet?_keepRosterFact locale m a ha hm
  · intro fact hfact
    obtain ⟨event, -, hparsed⟩ := mem_jsFacts.mp hfact
    rw [jsParsed_id hparsed]
    exact laws.hexDigits event.id

/-! The array that the TypeScript client returns. -/

theorem find?_of_nodup {α κ : Type} [DecidableEq κ] {key : α → κ} {items : List α}
    (hnodup : (items.map key).Nodup) {a : α} (h : a ∈ items) :
    items.find? (fun item => key item = key a) = some a := by
  induction items with
  | nil => cases h
  | cons item rest ih =>
      rw [List.map_cons, List.nodup_cons] at hnodup
      rcases List.mem_cons.mp h with rfl | h
      · rw [List.find?_cons_of_pos (by simp)]
      · have hne : key item ≠ key a := fun heq => hnodup.1 (heq ▸ List.mem_map_of_mem h)
        rw [List.find?_cons_of_neg (by simpa using hne), ih hnodup.2 h]

theorem eq_of_pair_sublists {α : Type} {items : List α} (hnodup : items.Nodup) {x y : α}
    (hxy : [x, y].Sublist items) (hyx : [y, x].Sublist items) : x = y := by
  induction items with
  | nil => cases hxy
  | cons item rest ih =>
      obtain ⟨hitem, hrest⟩ := List.nodup_cons.mp hnodup
      cases hxy with
      | cons _ hxy =>
          cases hyx with
          | cons _ hyx => exact ih hrest hxy hyx
          | cons_cons _ hx => exact absurd (hxy.subset (by simp)) hitem
      | cons_cons _ hy =>
          cases hyx with
          | cons _ hyx => exact absurd (hyx.subset (by simp)) hitem
          | cons_cons _ hx => rfl

section Array

variable (laws : EventLaws K) (locale : LocaleLaws localeCompare) (events : List (Event K))

omit [LinearOrder K]

include laws locale

theorem jsKeyed {g : String} {fact : TypeScript.GroupRosterFact}
    (h : (TypeScript.groupRosterFactsByGroup verifyEvent localeCompare
      (events.map wireEvent)).get? g = some fact) : fact.groupId = g := by
  rw [jsGet?_groupRosterFactsByGroup laws locale] at h
  exact (selected_cases h).2.1

theorem map_groupId_values :
    (TypeScript.groupRosterFactsByGroup verifyEvent localeCompare
      (events.map wireEvent)).values.map TypeScript.GroupRosterFact.groupId =
    (TypeScript.groupRosterFactsByGroup verifyEvent localeCompare
      (events.map wireEvent)).keys := by
  rw [InsertionMap.values, InsertionMap.keys, List.map_map]
  apply List.map_congr_left
  rintro ⟨g, fact⟩ hmem
  exact jsKeyed laws locale events (InsertionMap.mem_entries.mp hmem)

theorem nodup_groupIds :
    ((TypeScript.projectGroupRosterFactEvents verifyEvent localeCompare
      (events.map wireEvent)).map TypeScript.GroupRosterFact.groupId).Nodup := by
  have hperm := (List.mergeSort_perm (TypeScript.groupRosterFactsByGroup verifyEvent localeCompare
      (events.map wireEvent)).values (fun left right =>
        (localeCompare left.groupId right.groupId).isLE)).map TypeScript.GroupRosterFact.groupId
  refine hperm.nodup_iff.mpr ?_
  rw [map_groupId_values laws locale]
  exact InsertionMap.nodup _

theorem mem_projected {fact : TypeScript.GroupRosterFact} :
    fact ∈ TypeScript.projectGroupRosterFactEvents verifyEvent localeCompare
      (events.map wireEvent) ↔
    selected TypeScript.GroupRosterFact.groupId jsRank (jsFacts verifyEvent events)
      fact.groupId = some fact := by
  unfold TypeScript.projectGroupRosterFactEvents
  rw [List.mem_mergeSort, InsertionMap.mem_values]
  constructor
  · rintro ⟨g, hg⟩
    rw [← jsGet?_groupRosterFactsByGroup laws locale, jsKeyed laws locale events hg, hg]
  · intro h
    exact ⟨fact.groupId, by rw [jsGet?_groupRosterFactsByGroup laws locale, h]⟩

theorem find?_projected (g : String) :
    (TypeScript.projectGroupRosterFactEvents verifyEvent localeCompare
      (events.map wireEvent)).find? (fun fact => fact.groupId = g) =
    selected TypeScript.GroupRosterFact.groupId jsRank (jsFacts verifyEvent events) g := by
  cases h : selected TypeScript.GroupRosterFact.groupId jsRank (jsFacts verifyEvent events) g with
  | none =>
      rw [List.find?_eq_none]
      intro fact hmem hg
      rw [mem_projected laws locale, of_decide_eq_true hg, h] at hmem
      cases hmem
  | some fact =>
      obtain ⟨-, rfl, -⟩ := selected_cases h
      exact find?_of_nodup (nodup_groupIds laws locale events)
        ((mem_projected laws locale events).mpr h)

end Array

end Facts

/-! ## Agreement -/

section Agreement

variable {K T : Type} [LinearOrder K] [Primitives K T] [EventPrimitives K]
  (verifyEvent : TypeScript.VerifiedEvent → Bool) (localeCompare : String → String → Ordering)

/-- For each group the clients select one event, and what each returns depends only on which
events are in the list. -/
structure ProjectionsAgree (events : List (Event K)) : Prop where
  selects : ∀ g, ((GroupWire.groupRosterFactsByGroup events).get? g).map
      (fun fact => Primitives.toHex fact.eventId) =
    ((TypeScript.projectGroupRosterFactEvents verifyEvent localeCompare
      (events.map wireEvent)).find? (fun fact => fact.groupId = g)).map
        TypeScript.GroupRosterFact.eventId
  rustOrder : ∀ others : List (Event K), (∀ event, event ∈ others ↔ event ∈ events) →
    GroupWire.projectGroupRosterFactEvents others = GroupWire.projectGroupRosterFactEvents events
  jsOrder : ∀ others : List (Event K), (∀ event, event ∈ others ↔ event ∈ events) →
    TypeScript.projectGroupRosterFactEvents verifyEvent localeCompare (others.map wireEvent) =
      TypeScript.projectGroupRosterFactEvents verifyEvent localeCompare (events.map wireEvent)

/-- Group, revision and time of update of an event. -/
def version (event : Event K) : Option (String × (ℕ ×ₗ ℕ)) :=
  (GroupWire.parseGroupRosterFactEvent event).toOption.map
    (fun fact => (fact.groupId, toLex (fact.revision, fact.snapshot.updatedAt)))

/-- The clients read the group ids alike, the collation tells them apart, and of the latest
versions of a group the one with the greatest event id is also of the greatest time. -/
structure Unambiguous (events : List (Event K)) : Prop where
  groups : ∀ event ∈ events, ∀ g, GroupWire.groupIdFromTags event.tags = .ok g →
    TypeScript.groupIdFromTags event.tags = .ok g
  collation : ∀ a ∈ events, ∀ b ∈ events, ∀ g h, TypeScript.groupIdFromTags a.tags = .ok g →
    TypeScript.groupIdFromTags b.tags = .ok h → localeCompare g h = .eq → g = h
  ties : ∀ event ∈ events, ∀ g v, version event = some (g, v) →
    (∀ other ∈ events, ∀ w, version other = some (g, w) → w ≤ v) →
    (∀ other ∈ events, version other = some (g, v) →
      Primitives.toHex other.id ≤ Primitives.toHex event.id) →
    ∀ other ∈ events, version other = some (g, v) → other.createdAt ≤ event.createdAt

variable {verifyEvent localeCompare}

theorem mem_rustFacts_congr {first second : List (Event K)}
    (h : ∀ event, event ∈ first ↔ event ∈ second) (fact : GroupWire.GroupRosterFact K) :
    fact ∈ rustFacts first ↔ fact ∈ rustFacts second := by
  rw [mem_rustFacts, mem_rustFacts]
  exact exists_congr fun event => and_congr_left fun _ => h event

omit [LinearOrder K] [EventPrimitives K] in
theorem mem_jsFacts_congr {first second : List (Event K)}
    (h : ∀ event, event ∈ first ↔ event ∈ second) (fact : TypeScript.GroupRosterFact) :
    fact ∈ jsFacts verifyEvent first ↔ fact ∈ jsFacts verifyEvent second := by
  rw [mem_jsFacts, mem_jsFacts]
  exact exists_congr fun event => and_congr_left fun _ => h event

theorem Parsed.congr {first second : List (Event K)} (hparsed : Parsed verifyEvent second)
    (h : ∀ event, event ∈ first ↔ event ∈ second) : Parsed verifyEvent first :=
  fun event hmem => hparsed event ((h event).mp hmem)

/-- What the Rust client returns depends only on which events are in the list. -/
theorem rustOrder_of_parsed (laws : EventLaws K) {events : List (Event K)}
    (hparsed : Parsed verifyEvent events) (others : List (Event K))
    (h : ∀ event, event ∈ others ↔ event ∈ events) :
    GroupWire.projectGroupRosterFactEvents others =
      GroupWire.projectGroupRosterFactEvents events := by
  have hmaps : GroupWire.groupRosterFactsByGroup others =
      GroupWire.groupRosterFactsByGroup events := by
    apply SortedMap.ext_get?
    intro g
    rw [get?_groupRosterFactsByGroup, get?_groupRosterFactsByGroup]
    exact selected_congr (mem_rustFacts_congr h) (rustRank_inj laws (hparsed.congr h)) g
  unfold GroupWire.projectGroupRosterFactEvents
  rw [hmaps]

theorem collates_trans (locale : LocaleLaws localeCompare) (a b c : TypeScript.GroupRosterFact)
    (hab : (localeCompare a.groupId b.groupId).isLE = true)
    (hbc : (localeCompare b.groupId c.groupId).isLE = true) :
    (localeCompare a.groupId c.groupId).isLE = true := by
  have := locale.consistent
  exact Std.TransCmp.isLE_trans hab hbc

theorem collates_total (locale : LocaleLaws localeCompare) (a b : TypeScript.GroupRosterFact) :
    ((localeCompare a.groupId b.groupId).isLE || (localeCompare b.groupId a.groupId).isLE) =
      true := by
  have := locale.consistent
  rw [@Std.OrientedCmp.eq_swap _ localeCompare _ b.groupId a.groupId]
  cases localeCompare a.groupId b.groupId <;> rfl

theorem jsOrder_of_collation (laws : EventLaws K) (locale : LocaleLaws localeCompare)
    {events : List (Event K)} (hparsed : Parsed verifyEvent events)
    (hcollation : ∀ a ∈ jsFacts verifyEvent events, ∀ b ∈ jsFacts verifyEvent events,
      localeCompare a.groupId b.groupId = .eq → a.groupId = b.groupId)
    (others : List (Event K)) (h : ∀ event, event ∈ others ↔ event ∈ events) :
    TypeScript.projectGroupRosterFactEvents verifyEvent localeCompare (others.map wireEvent) =
      TypeScript.projectGroupRosterFactEvents verifyEvent localeCompare
        (events.map wireEvent) := by
  have := locale.consistent
  have hselected : ∀ g, selected TypeScript.GroupRosterFact.groupId jsRank
      (jsFacts verifyEvent others) g = selected TypeScript.GroupRosterFact.groupId jsRank
        (jsFacts verifyEvent events) g :=
    selected_congr (mem_jsFacts_congr h) (jsRank_inj laws (hparsed.congr h))
  have hmem : ∀ fact, fact ∈ TypeScript.projectGroupRosterFactEvents verifyEvent localeCompare
      (others.map wireEvent) ↔ fact ∈ TypeScript.projectGroupRosterFactEvents verifyEvent
        localeCompare (events.map wireEvent) := by
    intro fact
    rw [mem_projected laws locale, mem_projected laws locale, hselected]
  have hanti : ∀ a b, a ∈ TypeScript.projectGroupRosterFactEvents verifyEvent localeCompare
      (others.map wireEvent) → b ∈ TypeScript.projectGroupRosterFactEvents verifyEvent
        localeCompare (events.map wireEvent) →
      (localeCompare a.groupId b.groupId).isLE = true →
      (localeCompare b.groupId a.groupId).isLE = true → a = b := by
    intro a b ha hb hab hba
    rw [hmem, mem_projected laws locale] at ha
    rw [mem_projected laws locale] at hb
    have heq : localeCompare a.groupId b.groupId = .eq := by
      rw [@Std.OrientedCmp.eq_swap _ localeCompare _ b.groupId a.groupId] at hba
      cases hcompare : localeCompare a.groupId b.groupId with
      | lt =>
          rw [hcompare] at hba
          cases hba
      | eq => rfl
      | gt =>
          rw [hcompare] at hab
          cases hab
    have hgroup := hcollation a (selected_cases ha).1 b (selected_cases hb).1 heq
    rw [hgroup, hb] at ha
    exact (Option.some.inj ha).symm
  apply List.Perm.eq_of_pairwise hanti
  · exact List.pairwise_mergeSort (collates_trans locale) (collates_total locale) _
  · exact List.pairwise_mergeSort (collates_trans locale) (collates_total locale) _
  · exact (List.perm_ext_iff_of_nodup (nodup_groupIds laws locale others).of_map
      (nodup_groupIds laws locale events).of_map).mpr hmem

omit [LinearOrder K] [EventPrimitives K] in
/-- The group of the first event comes first in the map. -/
theorem head_keys {event : Event K} {rest : List (Event K)} {fact : TypeScript.GroupRosterFact}
    (h : TypeScript.parseGroupRosterFactEvent verifyEvent (wireEvent event) = .ok fact) :
    (TypeScript.groupRosterFactsByGroup verifyEvent localeCompare
      ((event :: rest).map wireEvent)).keys.head? = some fact.groupId := by
  have hkeep : ∀ (facts : List TypeScript.GroupRosterFact)
      (byGroup : InsertionMap String TypeScript.GroupRosterFact),
      byGroup.keys.head? = some fact.groupId →
      (facts.foldl (TypeScript.keepRosterFact localeCompare) byGroup).keys.head? =
        some fact.groupId := by
    intro facts
    induction facts with
    | nil => exact fun _ h => h
    | cons other later ih =>
        intro byGroup hhead
        have hset : (byGroup.set other.groupId other).keys.head? = some fact.groupId := by
          rw [InsertionMap.keys_set]
          split
          · exact hhead
          · rw [List.head?_append, hhead]
            rfl
        apply ih
        unfold TypeScript.keepRosterFact
        split
        · exact hset
        · split
          · exact hset
          · exact hhead
  unfold TypeScript.groupRosterFactsByGroup
  rw [List.map_cons, List.filterMap_cons_some (by rw [h]; rfl), List.foldl_cons]
  exact hkeep _ _ rfl

omit [LinearOrder K] in
/-- A first event whose group the collation does not put after another comes before it in the
array. -/
theorem pair_sublist_projected (laws : EventLaws K) (locale : LocaleLaws localeCompare)
    {event : Event K} {rest : List (Event K)} {first a b : TypeScript.GroupRosterFact}
    (h : TypeScript.parseGroupRosterFactEvent verifyEvent (wireEvent event) = .ok first)
    (ha : selected TypeScript.GroupRosterFact.groupId jsRank
      (jsFacts verifyEvent (event :: rest)) first.groupId = some a)
    (hb : selected TypeScript.GroupRosterFact.groupId jsRank
      (jsFacts verifyEvent (event :: rest)) b.groupId = some b)
    (hne : first.groupId ≠ b.groupId)
    (hle : (localeCompare a.groupId b.groupId).isLE = true) :
    [a, b].Sublist (TypeScript.projectGroupRosterFactEvents verifyEvent localeCompare
      ((event :: rest).map wireEvent)) := by
  apply List.pair_sublist_mergeSort (collates_trans locale) (collates_total locale) hle
  have hhead : (TypeScript.groupRosterFactsByGroup verifyEvent localeCompare
      ((event :: rest).map wireEvent)).keys.head? = some first.groupId := head_keys h
  have hgetA : (TypeScript.groupRosterFactsByGroup verifyEvent localeCompare
      ((event :: rest).map wireEvent)).get? first.groupId = some a := by
    rw [jsGet?_groupRosterFactsByGroup laws locale, ha]
  have hgetB : (TypeScript.groupRosterFactsByGroup verifyEvent localeCompare
      ((event :: rest).map wireEvent)).get? b.groupId = some b := by
    rw [jsGet?_groupRosterFactsByGroup laws locale, hb]
  generalize TypeScript.groupRosterFactsByGroup verifyEvent localeCompare
    ((event :: rest).map wireEvent) = byGroup at hhead hgetA hgetB ⊢
  have hentryA := InsertionMap.mem_entries.mpr hgetA
  have hentryB := InsertionMap.mem_entries.mpr hgetB
  have hnodup := byGroup.nodup
  unfold InsertionMap.keys at hhead
  unfold InsertionMap.values
  cases hentries : byGroup.entries with
  | nil =>
      rw [hentries] at hentryA
      cases hentryA
  | cons entry later =>
      rw [hentries] at hhead hentryA hentryB hnodup
      have hkey : entry.1 = first.groupId := Option.some.inj hhead
      have hA : (first.groupId, a) = entry := by
        rcases List.mem_cons.mp hentryA with hA | hA
        · exact hA
        · rw [List.map_cons, List.nodup_cons, hkey] at hnodup
          exact absurd (List.mem_map.mpr ⟨_, hA, rfl⟩) hnodup.1
      have hB : (b.groupId, b) ∈ later := by
        rcases List.mem_cons.mp hentryB with hB | hB
        · rw [← hB] at hkey
          exact absurd hkey.symm hne
        · exact hB
      rw [← hA, List.map_cons]
      exact List.Sublist.cons_cons a (List.singleton_sublist.mpr (List.mem_map.mpr ⟨_, hB, rfl⟩))

/-- Groups that the collation does not tell apart stand in the order of their first events. -/
theorem collation_of_jsOrder (laws : EventLaws K) (locale : LocaleLaws localeCompare)
    {events : List (Event K)} (hparsed : Parsed verifyEvent events)
    (horder : ∀ others : List (Event K), (∀ event, event ∈ others ↔ event ∈ events) →
      TypeScript.projectGroupRosterFactEvents verifyEvent localeCompare (others.map wireEvent) =
        TypeScript.projectGroupRosterFactEvents verifyEvent localeCompare (events.map wireEvent))
    {a b : Event K} (ha : a ∈ events) (hb : b ∈ events) {left right : TypeScript.GroupRosterFact}
    (hleft : TypeScript.parseGroupRosterFactEvent verifyEvent (wireEvent a) = .ok left)
    (hright : TypeScript.parseGroupRosterFactEvent verifyEvent (wireEvent b) = .ok right)
    (heq : localeCompare left.groupId right.groupId = .eq) : left.groupId = right.groupId := by
  have := locale.consistent
  by_contra hne
  have hfront : ∀ {event : Event K}, event ∈ events →
      ∀ other, other ∈ event :: events ↔ other ∈ events := by
    intro event hmem other
    rw [List.mem_cons]
    exact or_iff_right_of_imp fun hother => hother ▸ hmem
  have hselected : ∀ {event : Event K}, event ∈ events → ∀ g,
      selected TypeScript.GroupRosterFact.groupId jsRank (jsFacts verifyEvent (event :: events)) g =
        selected TypeScript.GroupRosterFact.groupId jsRank (jsFacts verifyEvent events) g :=
    fun hmem => selected_congr (mem_jsFacts_congr (hfront hmem))
      (jsRank_inj laws (hparsed.congr (hfront hmem)))
  have hwinner : ∀ {event : Event K} {fact : TypeScript.GroupRosterFact}, event ∈ events →
      TypeScript.parseGroupRosterFactEvent verifyEvent (wireEvent event) = .ok fact →
      ∃ winner, selected TypeScript.GroupRosterFact.groupId jsRank (jsFacts verifyEvent events)
        fact.groupId = some winner ∧ winner.groupId = fact.groupId := by
    intro event fact hmem hfact
    have hsome : (selected TypeScript.GroupRosterFact.groupId jsRank (jsFacts verifyEvent events)
        fact.groupId).isSome = true :=
      isSome_selected.mpr ⟨fact, mem_jsFacts.mpr ⟨event, hmem, hfact⟩, rfl⟩
    obtain ⟨winner, hwinner⟩ := Option.isSome_iff_exists.mp hsome
    exact ⟨winner, hwinner, (selected_cases hwinner).2.1⟩
  obtain ⟨x, hx, hxgroup⟩ := hwinner ha hleft
  obtain ⟨y, hy, hygroup⟩ := hwinner hb hright
  have hxy : [x, y].Sublist (TypeScript.projectGroupRosterFactEvents verifyEvent localeCompare
      (events.map wireEvent)) := by
    rw [← horder (a :: events) (hfront ha)]
    refine pair_sublist_projected laws locale hleft ?_ ?_ ?_ ?_
    · rw [hselected ha, hx]
    · rw [hselected ha, hygroup, hy]
    · rw [hygroup]
      exact hne
    · rw [hxgroup, hygroup, heq]
      rfl
  have hyx : [y, x].Sublist (TypeScript.projectGroupRosterFactEvents verifyEvent localeCompare
      (events.map wireEvent)) := by
    rw [← horder (b :: events) (hfront hb)]
    refine pair_sublist_projected laws locale hright ?_ ?_ ?_ ?_
    · rw [hselected hb, hy]
    · rw [hselected hb, hxgroup, hx]
    · rw [hxgroup]
      exact fun h => hne h.symm
    · rw [hxgroup, hygroup, @Std.OrientedCmp.eq_swap _ localeCompare, heq]
      rfl
  have hnodup : (TypeScript.projectGroupRosterFactEvents verifyEvent localeCompare
      (events.map wireEvent)).Nodup := (nodup_groupIds laws locale events).of_map
  exact hne (by rw [← hxgroup, ← hygroup, eq_of_pair_sublists hnodup hxy hyx])

theorem version_of_reads {event : Event K} {rust : GroupWire.GroupRosterFact K}
    (h : GroupWire.parseGroupRosterFactEvent event = .ok rust) :
    version event = some (rust.groupId, toLex (rust.revision, rust.snapshot.updatedAt)) := by
  unfold version
  rw [h]
  rfl

omit [LinearOrder K] [EventPrimitives K] in
/-- The Rust client compares versions before ids. -/
theorem rustRank_le_iff {left right : GroupWire.GroupRosterFact K} :
    rustRank left ≤ rustRank right ↔
      toLex (left.revision, left.snapshot.updatedAt) <
          toLex (right.revision, right.snapshot.updatedAt) ∨
        toLex (left.revision, left.snapshot.updatedAt) =
          toLex (right.revision, right.snapshot.updatedAt) ∧
            Primitives.toHex left.eventId ≤ Primitives.toHex right.eventId := by
  unfold rustRank
  rw [Prod.Lex.toLex_le_toLex, Prod.Lex.toLex_le_toLex, Prod.Lex.toLex_lt_toLex]
  simp only [EmbeddingLike.apply_eq_iff_eq, Prod.mk.injEq]
  grind

theorem jsRank_le_iff {left right : TypeScript.GroupRosterFact} :
    jsRank left ≤ jsRank right ↔
      toLex (left.revision, left.updatedAt) < toLex (right.revision, right.updatedAt) ∨
        toLex (left.revision, left.updatedAt) = toLex (right.revision, right.updatedAt) ∧
          (left.eventCreatedAt < right.eventCreatedAt ∨
            left.eventCreatedAt = right.eventCreatedAt ∧ left.eventId ≤ right.eventId) := by
  unfold jsRank
  rw [Prod.Lex.toLex_le_toLex, Prod.Lex.toLex_le_toLex, Prod.Lex.toLex_le_toLex,
    Prod.Lex.toLex_lt_toLex]
  simp only [EmbeddingLike.apply_eq_iff_eq, Prod.mk.injEq]
  grind

/-- The event of a group's latest version with the greatest id. -/
structure RustWins (events : List (Event K)) (g : String) (v : ℕ ×ₗ ℕ) (event : Event K) : Prop where
  mem : event ∈ events
  version : version event = some (g, v)
  latest : ∀ other ∈ events, ∀ w, RosterProjection.version other = some (g, w) → w ≤ v
  greatest : ∀ other ∈ events, RosterProjection.version other = some (g, v) →
    Primitives.toHex other.id ≤ Primitives.toHex event.id

theorem exists_of_version {event : Event K} {g : String} {v : ℕ ×ₗ ℕ}
    (h : version event = some (g, v)) : ∃ rust,
      GroupWire.parseGroupRosterFactEvent event = .ok rust ∧ rust.groupId = g ∧
        toLex (rust.revision, rust.snapshot.updatedAt) = v := by
  cases hrust : GroupWire.parseGroupRosterFactEvent event with
  | error e =>
      unfold version at h
      rw [hrust] at h
      cases h
  | ok rust =>
      rw [version_of_reads hrust] at h
      cases h
      exact ⟨rust, rfl, rfl, rfl⟩

/-- Both readings of an event of the list, given the one of Rust. -/
theorem Parsed.js {events : List (Event K)} (h : Parsed verifyEvent events) {event : Event K}
    (hmem : event ∈ events) {rust : GroupWire.GroupRosterFact K}
    (hrust : GroupWire.parseGroupRosterFactEvent event = .ok rust) : ∃ js,
      TypeScript.parseGroupRosterFactEvent verifyEvent (wireEvent event) = .ok js ∧
        Reads event rust js := by
  obtain ⟨rust', js, hrust', hjs, hreads⟩ := h.reads hmem
  rw [hrust] at hrust'
  cases hrust'
  exact ⟨js, hjs, hreads⟩

theorem Parsed.rust {events : List (Event K)} (h : Parsed verifyEvent events) {event : Event K}
    (hmem : event ∈ events) {js : TypeScript.GroupRosterFact}
    (hjs : TypeScript.parseGroupRosterFactEvent verifyEvent (wireEvent event) = .ok js) : ∃ rust,
      GroupWire.parseGroupRosterFactEvent event = .ok rust ∧ Reads event rust js := by
  obtain ⟨rust, js', hrust, hjs', hreads⟩ := h.reads hmem
  rw [hjs] at hjs'
  cases hjs'
  exact ⟨rust, hrust, hreads⟩

theorem rustWins_of_selected {events : List (Event K)} {g : String}
    (hparsed : Parsed verifyEvent events) {fact : GroupWire.GroupRosterFact K}
    (h : selected GroupWire.GroupRosterFact.groupId rustRank (rustFacts events) g = some fact) :
    ∃ event, GroupWire.parseGroupRosterFactEvent event = .ok fact ∧
      RustWins events g (toLex (fact.revision, fact.snapshot.updatedAt)) event := by
  obtain ⟨hfact, rfl, hle⟩ := selected_cases h
  obtain ⟨event, hmem, hrust⟩ := mem_rustFacts.mp hfact
  obtain ⟨js, -, hreads⟩ := hparsed.js hmem hrust
  refine ⟨event, hrust, hmem, version_of_reads hrust, ?_, ?_⟩
  · intro other hother w hversion
    obtain ⟨rust, hparse, hgroup, rfl⟩ := exists_of_version hversion
    have hrank := hle rust (mem_rustFacts.mpr ⟨other, hother, hparse⟩) hgroup
    rcases rustRank_le_iff.mp hrank with hlt | ⟨heq, -⟩
    · exact hlt.le
    · exact heq.le
  · intro other hother hversion
    obtain ⟨rust, hparse, hgroup, hsame⟩ := exists_of_version hversion
    obtain ⟨_, -, hreads'⟩ := hparsed.js hother hparse
    have hrank := hle rust (mem_rustFacts.mpr ⟨other, hother, hparse⟩) hgroup
    rw [rustRank_le_iff, hsame] at hrank
    rw [← hreads.rustId, ← hreads'.rustId]
    rcases hrank with hlt | ⟨-, hid⟩
    · exact absurd hlt (lt_irrefl _)
    · exact hid

theorem selected_of_rustWins (laws : EventLaws K) {events : List (Event K)} {g : String}
    {v : ℕ ×ₗ ℕ} (hparsed : Parsed verifyEvent events) {event : Event K}
    (h : RustWins events g v event) : ∃ fact,
      selected GroupWire.GroupRosterFact.groupId rustRank (rustFacts events) g = some fact ∧
        fact.eventId = event.id := by
  obtain ⟨fact, hrust, rfl, rfl⟩ := exists_of_version h.version
  obtain ⟨_, -, hreads⟩ := hparsed.js h.mem hrust
  refine ⟨fact, selected_eq_some (rustRank_inj laws hparsed)
    (mem_rustFacts.mpr ⟨event, h.mem, hrust⟩) rfl ?_, hreads.rustId⟩
  intro other hother hgroup
  obtain ⟨sender, hmem, hparse⟩ := mem_rustFacts.mp hother
  obtain ⟨_, -, hreads'⟩ := hparsed.js hmem hparse
  have hversion := version_of_reads hparse
  rw [hgroup] at hversion
  rw [rustRank_le_iff, hreads.rustId, hreads'.rustId]
  rcases (h.latest sender hmem _ hversion).lt_or_eq with hlt | heq
  · exact Or.inl hlt
  · rw [heq] at hversion
    exact Or.inr ⟨heq, h.greatest sender hmem hversion⟩

omit [LinearOrder K] in
theorem Unambiguous.js_groupId {events : List (Event K)}
    (h : ∀ event ∈ events, ∀ g, GroupWire.groupIdFromTags event.tags = .ok g →
      TypeScript.groupIdFromTags event.tags = .ok g) {event : Event K} (hmem : event ∈ events)
    {rust : GroupWire.GroupRosterFact K} {js : TypeScript.GroupRosterFact}
    (hreads : Reads event rust js) : rust.groupId = js.groupId := by
  have hgroup := h event hmem _ hreads.rustGroup
  rw [hreads.jsGroup] at hgroup
  exact (Except.ok.inj hgroup).symm

/-- The clients select alike where the lists are unambiguous. -/
theorem selects_of_unambiguous (laws : EventLaws K) (locale : LocaleLaws localeCompare)
    {events : List (Event K)} (hparsed : Parsed verifyEvent events)
    (h : Unambiguous localeCompare events) (g : String) :
    ((GroupWire.groupRosterFactsByGroup events).get? g).map
        (fun fact => Primitives.toHex fact.eventId) =
      ((TypeScript.projectGroupRosterFactEvents verifyEvent localeCompare
        (events.map wireEvent)).find? (fun fact => fact.groupId = g)).map
          TypeScript.GroupRosterFact.eventId := by
  rw [get?_groupRosterFactsByGroup, find?_projected laws locale]
  cases hrust : selected GroupWire.GroupRosterFact.groupId rustRank (rustFacts events) g with
  | none =>
      cases hjs : selected TypeScript.GroupRosterFact.groupId jsRank
          (jsFacts verifyEvent events) g with
      | none => rfl
      | some js =>
          obtain ⟨hmem, rfl, -⟩ := selected_cases hjs
          obtain ⟨event, hevent, hparse⟩ := mem_jsFacts.mp hmem
          obtain ⟨rust, hrustParse, hreads⟩ := hparsed.rust hevent hparse
          have hsome : (selected GroupWire.GroupRosterFact.groupId rustRank (rustFacts events)
              js.groupId).isSome = true :=
            isSome_selected.mpr ⟨rust, mem_rustFacts.mpr ⟨event, hevent, hrustParse⟩,
              Unambiguous.js_groupId h.groups hevent hreads⟩
          rw [hrust] at hsome
          cases hsome
  | some rust =>
      obtain ⟨event, hrustParse, hwins⟩ := rustWins_of_selected hparsed hrust
      obtain ⟨js, hjsParse, hreads⟩ := hparsed.js hwins.mem hrustParse
      have hgroup := Unambiguous.js_groupId h.groups hwins.mem hreads
      have hrustGroup : rust.groupId = g := (selected_cases hrust).2.1
      have hsome : (selected TypeScript.GroupRosterFact.groupId jsRank
          (jsFacts verifyEvent events) g).isSome = true :=
        isSome_selected.mpr ⟨js, mem_jsFacts.mpr ⟨event, hwins.mem, hjsParse⟩,
          hgroup.symm.trans hrustGroup⟩
      obtain ⟨winner, hwinner⟩ := Option.isSome_iff_exists.mp hsome
      rw [hwinner]
      obtain ⟨hmem, hwinnerGroup, hle⟩ := selected_cases hwinner
      obtain ⟨other, hother, hotherParse⟩ := mem_jsFacts.mp hmem
      obtain ⟨rust', hrustParse', hreads'⟩ := hparsed.rust hother hotherParse
      have hgroup' : rust'.groupId = g :=
        (Unambiguous.js_groupId h.groups hother hreads').trans hwinnerGroup
      have hversion := version_of_reads hrustParse'
      rw [hgroup'] at hversion
      have hlatest := hwins.latest other hother _ hversion
      have hrank := hle js (mem_jsFacts.mpr ⟨event, hwins.mem, hjsParse⟩)
        (hgroup.symm.trans hrustGroup)
      rw [jsRank_le_iff, ← hreads.revision, ← hreads.updatedAt, ← hreads'.revision,
        ← hreads'.updatedAt, hreads.createdAt, hreads'.createdAt, hreads.jsId,
        hreads'.jsId] at hrank
      rcases hrank with hlt | ⟨heq, hrank⟩
      · exact absurd hlt (not_lt.mpr hlatest)
      · rw [← heq] at hversion
        have hcreated := h.ties event hwins.mem g _ hwins.version hwins.latest hwins.greatest
          other hother hversion
        have hid := hwins.greatest other hother hversion
        rcases hrank with hlt | ⟨-, hids⟩
        · exact absurd hlt (not_lt.mpr hcreated)
        · simp only [Option.map_some, hreads'.jsId, hreads.rustId]
          exact congrArg some (le_antisymm hids hid)

section Converse

variable (laws : EventLaws K) (locale : LocaleLaws localeCompare) {events : List (Event K)}
  (hparsed : Parsed verifyEvent events)
  (hselects : ∀ g, (selected GroupWire.GroupRosterFact.groupId rustRank (rustFacts events) g).map
      (fun fact => Primitives.toHex fact.eventId) =
    (selected TypeScript.GroupRosterFact.groupId jsRank (jsFacts verifyEvent events) g).map
      TypeScript.GroupRosterFact.eventId)

include hparsed hselects

/-- A group that one client has, the other has too, so neither group id has anything left for the
other client to trim. -/
theorem groups_of_selects (event : Event K) (hmem : event ∈ events) (g : String)
    (hg : GroupWire.groupIdFromTags event.tags = .ok g) :
    TypeScript.groupIdFromTags event.tags = .ok g := by
  obtain ⟨rust, js, hrust, hjs, hreads⟩ := hparsed.reads hmem
  have hrustGroup : rust.groupId = g := by
    have hgroup := hreads.rustGroup
    rw [hg] at hgroup
    exact (Except.ok.inj hgroup).symm
  have hrustSome : (selected GroupWire.GroupRosterFact.groupId rustRank (rustFacts events)
      g).isSome = true :=
    isSome_selected.mpr ⟨rust, mem_rustFacts.mpr ⟨event, hmem, hrust⟩, hrustGroup⟩
  have hjsSome : (selected TypeScript.GroupRosterFact.groupId jsRank (jsFacts verifyEvent events)
      js.groupId).isSome = true :=
    isSome_selected.mpr ⟨js, mem_jsFacts.mpr ⟨event, hmem, hjs⟩, rfl⟩
  have hjsTrim : TypeScript.jsTrim g = g := by
    rw [← Option.isSome_map, hselects, Option.isSome_map, isSome_selected] at hrustSome
    obtain ⟨fact, hfact, rfl⟩ := hrustSome
    obtain ⟨other, hother, hparse⟩ := mem_jsFacts.mp hfact
    obtain ⟨_, -, hreads'⟩ := hparsed.rust hother hparse
    exact jsTrim_jsGroupId hreads'.jsGroup
  have htrim : trim js.groupId = js.groupId := by
    rw [← Option.isSome_map, ← hselects, Option.isSome_map, isSome_selected] at hjsSome
    obtain ⟨fact, hfact, hgroup⟩ := hjsSome
    obtain ⟨other, hother, hparse⟩ := mem_rustFacts.mp hfact
    obtain ⟨_, -, hreads'⟩ := hparsed.js hother hparse
    rw [← hgroup]
    exact trim_rustGroupId hreads'.rustGroup
  rw [groupIds_agree hg hreads.jsGroup hjsTrim htrim]
  exact hreads.jsGroup

include laws

theorem ties_of_selects {event : Event K} {g : String} {v : ℕ ×ₗ ℕ}
    (hwins : RustWins events g v event) (other : Event K) (hother : other ∈ events)
    (hversion : version other = some (g, v)) : other.createdAt ≤ event.createdAt := by
  have hgroups := groups_of_selects hparsed hselects
  obtain ⟨fact, hfact, hid⟩ := selected_of_rustWins laws hparsed hwins
  have hsame := hselects g
  rw [hfact, Option.map_some, hid, eq_comm, Option.map_eq_some_iff] at hsame
  obtain ⟨winner, hwinner, hwinnerId⟩ := hsame
  obtain ⟨hmem, hwinnerGroup, hle⟩ := selected_cases hwinner
  obtain ⟨sender, hsender, hparse⟩ := mem_jsFacts.mp hmem
  obtain ⟨rust, hrust, hreads⟩ := hparsed.rust hsender hparse
  obtain ⟨rustEvent, hrustEvent, hgroupEvent, hv⟩ := exists_of_version hwins.version
  obtain ⟨jsEvent, hjsEvent, hreadsEvent⟩ := hparsed.js hwins.mem hrustEvent
  -- The selected fact is that of the event, though it may come from a copy of it.
  have hids : sender.id = event.id := by
    apply laws.hexInjective
    rw [← hreads.jsId, hwinnerId]
  have hfacts := jsParsed_inj laws hparse hjsEvent hreads.verified hreadsEvent.verified hids
  obtain ⟨rustOther, hrustOther, hgroupOther, hvOther⟩ := exists_of_version hversion
  obtain ⟨jsOther, hjsOther, hreadsOther⟩ := hparsed.js hother hrustOther
  have hjsGroup := Unambiguous.js_groupId hgroups hother hreadsOther
  have hrank := hle jsOther (mem_jsFacts.mpr ⟨other, hother, hjsOther⟩)
    (hjsGroup.symm.trans hgroupOther)
  rw [hfacts, jsRank_le_iff, ← hreadsOther.revision, ← hreadsOther.updatedAt,
    ← hreadsEvent.revision, ← hreadsEvent.updatedAt, hv, hvOther, hreadsOther.createdAt,
    hreadsEvent.createdAt] at hrank
  rcases hrank with hlt | ⟨-, hlt | ⟨heq, -⟩⟩
  · exact absurd hlt (lt_irrefl _)
  · exact hlt.le
  · exact heq.le

end Converse

/-- The projections of a list that both clients read agree exactly if the list is unambiguous. -/
theorem projections_agree_iff (laws : EventLaws K) (locale : LocaleLaws localeCompare)
    (events : List (Event K)) (hparsed : Parsed verifyEvent events) :
    ProjectionsAgree verifyEvent localeCompare events ↔ Unambiguous localeCompare events := by
  constructor
  · intro h
    have hselects : ∀ g, (selected GroupWire.GroupRosterFact.groupId rustRank
        (rustFacts events) g).map (fun fact => Primitives.toHex fact.eventId) =
      (selected TypeScript.GroupRosterFact.groupId jsRank (jsFacts verifyEvent events) g).map
        TypeScript.GroupRosterFact.eventId := by
      intro g
      have hg := h.selects g
      rw [get?_groupRosterFactsByGroup, find?_projected laws locale] at hg
      exact hg
    refine ⟨groups_of_selects hparsed hselects, ?_, ?_⟩
    · intro a ha b hb left right hleft hright heq
      obtain ⟨_, jsA, -, hjsA, hreadsA⟩ := hparsed.reads ha
      obtain ⟨_, jsB, -, hjsB, hreadsB⟩ := hparsed.reads hb
      have hgroupA := hreadsA.jsGroup
      have hgroupB := hreadsB.jsGroup
      rw [hleft] at hgroupA
      rw [hright] at hgroupB
      rw [Except.ok.inj hgroupA, Except.ok.inj hgroupB] at heq ⊢
      exact collation_of_jsOrder laws locale hparsed h.jsOrder ha hb hjsA hjsB heq
    · intro event hmem g v hversion hlatest hgreatest
      exact ties_of_selects laws hparsed hselects ⟨hmem, hversion, hlatest, hgreatest⟩
  · intro h
    refine ⟨selects_of_unambiguous laws locale hparsed h, rustOrder_of_parsed laws hparsed, ?_⟩
    apply jsOrder_of_collation laws locale hparsed
    intro left hleft right hright heq
    obtain ⟨a, ha, hparseA⟩ := mem_jsFacts.mp hleft
    obtain ⟨b, hb, hparseB⟩ := mem_jsFacts.mp hright
    obtain ⟨_, -, hreadsA⟩ := hparsed.rust ha hparseA
    obtain ⟨_, -, hreadsB⟩ := hparsed.rust hb hparseB
    exact h.collation a ha b hb _ _ hreadsA.jsGroup hreadsB.jsGroup heq

end Agreement

/-! Three facts of one version. -/

namespace Concurrent

open RosterAgreement RosterAgreement.HexKey

attribute [local instance] HexKey.primitives

def ones : HexKey :=
  ⟨"1111111111111111111111111111111111111111111111111111111111111111", by decide +kernel,
    by decide +kernel⟩

def twos : HexKey :=
  ⟨"2222222222222222222222222222222222222222222222222222222222222222", by decide +kernel,
    by decide +kernel⟩

def fact (id : HexKey) (createdAt : Nat) : Event HexKey :=
  ⟨id, HexKey.zero, createdAt, 37368, rosterTags "1" "team", "", ""⟩

def facts : List (Event HexKey) := [fact HexKey.zero 5, fact ones 3, fact twos 9]

/-- These three events are signed, and no others. -/
@[reducible] def eventPrimitives : EventPrimitives HexKey where
  verifyEvent event := facts.any (fun signed => { event with sig := "" } = signed)
  jsonLength event := .ok event.content.length
  hexDecode := HexKey.decode

attribute [local instance] eventPrimitives

def verifyEvent (event : TypeScript.VerifiedEvent) : Bool :=
  facts.any (fun signed => { event with sig := "" } = wireEvent signed)

theorem eventLaws : EventLaws HexKey where
  hexDigits key := by
    have hlower : key.text.toList.map Char.toLower = key.text.toList := by
      have h := congrArg String.toList key.lower
      rwa [lowerHex, String.toList_ofList] at h
    have hhex := key.hex
    unfold TypeScript.isHex64 at hhex
    rw [Bool.and_eq_true, List.all_eq_true] at hhex
    change isHexText key.text = true
    unfold isHexText
    rw [List.all_eq_true]
    intro c hmem
    have hc : c.toLower = c := by
      conv_rhs at hlower => rw [← List.map_id key.text.toList]
      exact List.map_inj_left.mp hlower c hmem
    have hnat := toNat_toLower c
    rw [hc] at hnat
    have hdigit := hhex.2 c hmem
    unfold isAsciiHexDigit at hdigit
    simp only [Bool.or_eq_true, Bool.and_eq_true, decide_eq_true_eq] at hdigit ⊢
    rcases hdigit with (hdigit | hupper) | hlower
    · exact Or.inl hdigit
    · rw [if_pos (by omega)] at hnat
      omega
    · exact Or.inr hlower
  hexInjective a b h := by
    cases a
    cases b
    cases h
    rfl
  idBinds a b ha hb h := by
    obtain ⟨s, hs, hsame⟩ := List.any_eq_true.mp ha
    obtain ⟨t, ht, hsame'⟩ := List.any_eq_true.mp hb
    have hs' := of_decide_eq_true hsame
    have ht' := of_decide_eq_true hsame'
    have hunique : ∀ s ∈ facts, ∀ t ∈ facts, s.id = t.id → s = t := by decide +kernel
    have hst := hunique s hs t ht (by rw [← hs', ← ht']; exact h)
    rw [← hs', ← ht'] at hst
    cases a
    cases b
    cases hst
    rfl

theorem localeLaws : LocaleLaws (compare : String → String → Ordering) where
  consistent := inferInstance
  hexDigits _ _ _ _ := rfl

theorem read_fact {event : Event HexKey} (h : event ∈ facts) :
    (GroupWire.parseGroupRosterFactEvent event).toOption.map
        (fun fact => (fact.groupId, fact.revision, fact.snapshot.updatedAt)) = some ("g", 1, 2) ∧
      (TypeScript.parseGroupRosterFactEvent verifyEvent (wireEvent event)).isOk = true := by
  have hall : ∀ event ∈ facts, (GroupWire.parseGroupRosterFactEvent event).toOption.map
        (fun fact => (fact.groupId, fact.revision, fact.snapshot.updatedAt)) = some ("g", 1, 2) ∧
      (TypeScript.parseGroupRosterFactEvent verifyEvent (wireEvent event)).isOk = true := by
    decide +kernel
  exact hall event h

theorem parsed {events : List (Event HexKey)} (h : ∀ event ∈ events, event ∈ facts) :
    Parsed verifyEvent events := by
  intro event hmem
  obtain ⟨hrust, hjs⟩ := read_fact (h event hmem)
  refine ⟨?_, hjs⟩
  cases hparsed : GroupWire.parseGroupRosterFactEvent event with
  | error e =>
      rw [hparsed] at hrust
      cases hrust
  | ok rust => rfl

theorem version_fact {event : Event HexKey} (h : event ∈ facts) :
    version event = some ("g", toLex (1, 2)) := by
  have hevent := (read_fact h).1
  rw [Option.map_eq_some_iff] at hevent
  obtain ⟨fact, hfact, hfields⟩ := hevent
  simp only [Prod.mk.injEq] at hfields
  obtain ⟨hgroup, hrevision, hupdated⟩ := hfields
  unfold version
  rw [hfact, Option.map_some, hgroup, hrevision, hupdated]

/-- Where the event of the greatest id is the last one, the clients agree on it. -/
theorem agree_on_last : Parsed verifyEvent [fact HexKey.zero 5, fact twos 9] ∧
    ProjectionsAgree verifyEvent compare [fact HexKey.zero 5, fact twos 9] := by
  have hparsed : Parsed verifyEvent [fact HexKey.zero 5, fact twos 9] := parsed (by decide +kernel)
  refine ⟨hparsed, (projections_agree_iff eventLaws localeLaws _ hparsed).mpr ⟨?_, ?_, ?_⟩⟩
  · have hgroup : GroupWire.groupIdFromTags (rosterTags "1" "team") = .ok "g" := by
      decide +kernel
    have hjsGroup : TypeScript.groupIdFromTags (rosterTags "1" "team") = .ok "g" := by
      decide +kernel
    intro event hmem g hg
    have htags : event.tags = rosterTags "1" "team" := by
      rcases List.mem_pair.mp hmem with rfl | rfl
      · rfl
      · rfl
    rw [htags] at hg ⊢
    rw [hgroup] at hg
    rw [hjsGroup, Except.ok.inj hg]
  · intro _ _ _ _ g h _ _ heq
    exact compare_eq_iff_eq.mp heq
  · intro event hmem g v hversion _ hgreatest other hother _
    rcases List.mem_pair.mp hmem with rfl | rfl
    · have htwos : version (fact twos 9) = some (g, v) := by
        rw [← hversion, version_fact (by decide +kernel), version_fact (by decide +kernel)]
      exact absurd (hgreatest (fact twos 9) (by decide +kernel) htwos) (by decide +kernel)
    · rcases List.mem_pair.mp hother with rfl | rfl
      · exact (by decide : 5 ≤ 9)
      · exact le_rfl

/-- Of two facts of one version, one client takes the greater id and the other the later event. -/
theorem disagree_on_earlier : Parsed verifyEvent [fact HexKey.zero 5, fact ones 3] ∧
    ¬ ProjectionsAgree verifyEvent compare [fact HexKey.zero 5, fact ones 3] := by
  have hparsed : Parsed verifyEvent [fact HexKey.zero 5, fact ones 3] := parsed (by decide +kernel)
  refine ⟨hparsed, ?_⟩
  intro h
  have hselects : ∀ g, (selected GroupWire.GroupRosterFact.groupId rustRank
      (rustFacts [fact HexKey.zero 5, fact ones 3]) g).map
        (fun fact => Primitives.toHex fact.eventId) =
    (selected TypeScript.GroupRosterFact.groupId jsRank
      (jsFacts verifyEvent [fact HexKey.zero 5, fact ones 3]) g).map
        TypeScript.GroupRosterFact.eventId := by
    intro g
    have hg := h.selects g
    rw [get?_groupRosterFactsByGroup, find?_projected eventLaws localeLaws] at hg
    exact hg
  have hwins : RustWins [fact HexKey.zero 5, fact ones 3] "g" (toLex (1, 2)) (fact ones 3) := by
    refine ⟨by decide +kernel, version_fact (by decide +kernel), ?_, ?_⟩
    · intro other hother w hversion
      have hfact : other ∈ facts := by
        rcases List.mem_pair.mp hother with rfl | rfl
        · decide +kernel
        · decide +kernel
      rw [version_fact hfact] at hversion
      cases hversion
      exact le_rfl
    · intro other hother _
      rcases List.mem_pair.mp hother with rfl | rfl
      · decide +kernel
      · exact le_rfl
  have hlater := ties_of_selects eventLaws hparsed hselects hwins (fact HexKey.zero 5)
    (by decide +kernel) (version_fact (by decide +kernel))
  exact absurd hlater (by decide : ¬ 5 ≤ 3)

end Concurrent

end NostrDoubleRatchet.RosterProjection
