import NostrDoubleRatchet.Lib.InsertionMap
import NostrDoubleRatchet.Lib.SortedSet
import NostrDoubleRatchet.TypeScript.Events

/-!
Group records and roster facts of `GroupMeta.ts`: reading a fact from the tags of a rumor or of a
signed event, the projection of signed facts to one for each group, and the two checks that
decide whether a fact's metadata replaces a record.
-/

namespace NostrDoubleRatchet.TypeScript

def GROUP_ROSTER_FACT_KIND : Nat := 37368

def GROUP_ROSTER_FACT_TYPE : String := "group_roster"

def GROUP_ROSTER_FACT_SCHEMA : Nat := 1

def GROUP_SENDER_KEY_DISTRIBUTION_KIND : Nat := 10446

def GROUP_SENDER_KEY_REPAIR_REQUEST_KIND : Nat := 10447

structure GroupData where
  id : String
  name : String
  description : Option String
  picture : Option String
  members : List String
  admins : List String
  createdAt : Nat
  secret : Option String
  accepted : Option Bool
  deriving DecidableEq

structure GroupMetadata where
  id : String
  name : String
  description : Option String
  picture : Option String
  members : List String
  admins : List String
  deriving DecidableEq

inductive GroupRosterProtocol where
  | pairwiseFanoutV1
  | senderKeyV1
  deriving DecidableEq

structure GroupRosterFact where
  eventId : String
  signerPubkey : String
  groupId : String
  revision : Nat
  createdBy : String
  updatedAt : Nat
  eventCreatedAt : Nat
  protocol : Option GroupRosterProtocol
  group : GroupData
  deriving DecidableEq

inductive MetadataVerdict where
  | accept
  | reject
  | removed
  deriving DecidableEq

def isGroupAdmin (group : GroupData) (pubkey : String) : Bool := group.admins.contains pubkey

def validateMetadataUpdate (existing : GroupData) (metadata : GroupMetadata)
    (senderPubkey myPubkey : String) : MetadataVerdict :=
  if !isGroupAdmin existing senderPubkey then .reject
  else if !metadata.members.contains myPubkey then .removed
  else .accept

def validateMetadataCreation (metadata : GroupMetadata) (senderPubkey myPubkey : String) : Bool :=
  if !metadata.admins.contains senderPubkey then false
  else if !metadata.members.contains myPubkey then false
  else true

def applyMetadataUpdate (existing : GroupData) (metadata : GroupMetadata) : GroupData :=
  { existing with
    name := metadata.name
    members := metadata.members
    admins := metadata.admins
    description := metadata.description
    picture := metadata.picture }

/-- `if (!condition) throw new Error(message)`. -/
def ensure (condition : Prop) [Decidable condition] (message : String) : Except String Unit :=
  if condition then .ok () else .error message

theorem ensure_eq_ok {condition : Prop} [Decidable condition] {message : String} {done : Unit} :
    ensure condition message = .ok done ↔ condition := by
  unfold ensure
  split
  · rename_i h
    simp [h]
  · rename_i h
    simp [h]

section Tags

def tagValues (tags : List (List String)) (name : String) : List String :=
  ((tags.filter (fun tag => tag.head? = some name)).map
    (fun tag => (tag[1]?.map jsTrim).getD "")).filter (· ≠ "")

def firstTagValue (tags : List (List String)) (name : String) : Option String :=
  (tagValues tags name).head?

def requireTagValue (tags : List (List String)) (name : String) : Except String String :=
  match firstTagValue tags name with
  | none => .error s!"GroupRoster fact missing {name}"
  | some value => .ok value

/-- On texts; a number is first written out. -/
def requireNonNegativeInteger (value label : String) : Except String Nat :=
  let raw := (jsTrim value).toList
  if raw = [] ∨ ¬ raw.all Char.isDigit then
    .error s!"GroupRoster {label} must be an integer"
  else
    let parsed := Nat.ofDigitChars 10 raw 0
    if parsed > maxSafeInteger then .error s!"GroupRoster {label} is too large"
    else .ok parsed

def requireTagInteger (tags : List (List String)) (name : String) : Except String Nat := do
  requireNonNegativeInteger (← requireTagValue tags name) name

/-- `toLowerCase` matters for the letters of a hex text only. -/
def requireHexPubkey (value label : String) : Except String String :=
  let normalized := String.ofList ((jsTrim value).toList.map Char.toLower)
  if isHex64 normalized then .ok normalized
  else .error s!"GroupRoster {label} pubkey must be 64-char hex"

def canonicalPubkeys (values : List String) (label : String) : Except String (List String) := do
  let pubkeys ← values.mapM (requireHexPubkey · label)
  pure (SortedSet.ofList pubkeys).toList

def requireAdminsAreMembers (admins members : List String) : Except String Unit :=
  if admins = [] then .error "GroupRoster admins must not be empty"
  else if admins.any (fun admin => !members.contains admin) then
    .error "GroupRoster admins must also be members"
  else .ok ()

def groupIdFromTags (tags : List (List String)) : Except String String := do
  let subjects := ((tags.filter (fun tag => tag.head? = some "i" && tag[2]? = some "subject")).map
    (fun tag => (tag[1]?.map jsTrim).getD "")).filter (· ≠ "")
  match subjects with
  | [groupId] =>
      let d ← requireTagValue tags "d"
      if d ≠ groupId then .error "GroupRoster d/subject tag mismatch" else .ok groupId
  | _ => .error "GroupRoster fact must have exactly one subject i tag"

def parseGroupRosterProtocol : Option String → Except String (Option GroupRosterProtocol)
  | none => .ok none
  | some "pairwise_fanout_v1" => .ok (some .pairwiseFanoutV1)
  | some "sender_key_v1" => .ok (some .senderKeyV1)
  | some value => .error s!"Unsupported GroupRoster protocol {value}"

end Tags

def isGroupRosterFactEvent (event : Rumor) : Bool :=
  event.kind = GROUP_ROSTER_FACT_KIND &&
    (tagValues event.tags "type").contains GROUP_ROSTER_FACT_TYPE

def parseGroupRosterFactWire (event : Rumor) : Except String GroupRosterFact := do
  ensure (isGroupRosterFactEvent event) "Event is not a GroupRoster fact"
  ensure (event.content = "") "GroupRoster fact event content must be empty"
  let schema ← requireTagInteger event.tags "schema"
  ensure (schema = GROUP_ROSTER_FACT_SCHEMA) s!"Unsupported GroupRoster fact schema {schema}"
  let groupId ← groupIdFromTags event.tags
  ensure ((firstTagValue event.tags "group_id").all (· = groupId))
    "GroupRoster group_id/subject tag mismatch"
  let members ← canonicalPubkeys (tagValues event.tags "member") "member"
  let admins ← canonicalPubkeys (tagValues event.tags "admin") "admin"
  requireAdminsAreMembers admins members
  let signerPubkey ← requireHexPubkey event.pubkey "signer"
  let about := (firstTagValue event.tags "about").or (firstTagValue event.tags "description")
  let picture := firstTagValue event.tags "picture"
  let protocol ← parseGroupRosterProtocol (firstTagValue event.tags "protocol")
  let name ← requireTagValue event.tags "name"
  let createdAt ← requireTagInteger event.tags "created_at"
  let revision ← requireTagInteger event.tags "revision"
  let createdBy ← requireHexPubkey (← requireTagValue event.tags "created_by") "created_by"
  let updatedAt ← requireTagInteger event.tags "updated_at"
  pure {
    eventId := event.id
    signerPubkey := signerPubkey
    groupId := groupId
    revision := revision
    createdBy := createdBy
    updatedAt := updatedAt
    eventCreatedAt := event.createdAt
    protocol := protocol
    group := {
      id := groupId
      name := name
      description := about
      picture := picture
      members := members
      admins := admins
      createdAt := createdAt
      secret := none
      accepted := none } }

def parseGroupRosterFactRumor (event : Rumor) : Except String GroupRosterFact :=
  parseGroupRosterFactWire event

section Projection

/-! `verifyEvent` and the collation of the locale come from outside. -/

variable (verifyEvent : VerifiedEvent → Bool) (localeCompare : String → String → Ordering)

/-- What the wire reader looks at. -/
def VerifiedEvent.unsigned (event : VerifiedEvent) : Rumor :=
  ⟨event.id, event.pubkey, event.kind, event.createdAt, event.tags, event.content⟩

def parseGroupRosterFactEvent (event : VerifiedEvent) : Except String GroupRosterFact := do
  ensure (verifyEvent event) "GroupRoster fact signature is invalid"
  let fact ← parseGroupRosterFactWire event.unsigned
  ensure (fact.group.admins.contains fact.signerPubkey) "GroupRoster signer must be an admin"
  pure fact

/-- The sign of the number. -/
def compareGroupRosterFacts (left right : GroupRosterFact) : Ordering :=
  (compare left.revision right.revision).then
    ((compare left.updatedAt right.updatedAt).then
      ((compare left.eventCreatedAt right.eventCreatedAt).then
        (localeCompare left.eventId right.eventId)))

/-- One turn of the loop of `projectGroupRosterFactEvents`. -/
def keepRosterFact (byGroup : InsertionMap String GroupRosterFact) (fact : GroupRosterFact) :
    InsertionMap String GroupRosterFact :=
  match byGroup.get? fact.groupId with
  | none => byGroup.set fact.groupId fact
  | some existing =>
      if (compareGroupRosterFacts localeCompare fact existing).isGT then
        byGroup.set fact.groupId fact
      else byGroup

def groupRosterFactsByGroup (events : List VerifiedEvent) :
    InsertionMap String GroupRosterFact :=
  (events.filterMap (fun event => (parseGroupRosterFactEvent verifyEvent event).toOption)).foldl
    (keepRosterFact localeCompare) InsertionMap.empty

def projectGroupRosterFactEvents (events : List VerifiedEvent) : List GroupRosterFact :=
  (groupRosterFactsByGroup verifyEvent localeCompare events).values.mergeSort
    (fun left right => (localeCompare left.groupId right.groupId).isLE)

end Projection

def groupMetadataFromRosterFact (fact : GroupRosterFact) : GroupMetadata where
  id := fact.group.id
  name := fact.group.name
  description := fact.group.description
  picture := fact.group.picture
  members := fact.group.members
  admins := fact.group.admins

/-- What a roster fact decides about a group. -/
structure GroupProfile where
  name : String
  description : Option String
  picture : Option String
  members : List String
  admins : List String
  deriving DecidableEq

def GroupData.profile (group : GroupData) : GroupProfile :=
  ⟨group.name, group.description, group.picture, group.members, group.admins⟩

def GroupRosterFact.profile (fact : GroupRosterFact) : GroupProfile := fact.group.profile

theorem tagValues_ne_empty {tags : List (List String)} {name value : String}
    (h : value ∈ tagValues tags name) : value ≠ "" := by
  unfold tagValues at h
  simpa using (List.mem_filter.mp h).2

theorem firstTagValue_ne_empty (tags : List (List String)) (name : String) :
    firstTagValue tags name ≠ some "" := by
  intro h
  exact tagValues_ne_empty (List.mem_of_head? h) rfl

theorem groupIdFromTags_ne_empty {tags : List (List String)} {groupId : String}
    (h : groupIdFromTags tags = .ok groupId) : groupId ≠ "" := by
  unfold groupIdFromTags at h
  dsimp only at h
  split at h
  · rename_i subject hsubjects
    rw [except_bind_eq_ok] at h
    obtain ⟨d, hd, h⟩ := h
    split at h
    · cases h
    · cases h
      have hmem := hsubjects ▸ List.mem_singleton_self groupId
      simpa using (List.mem_filter.mp hmem).2
  · cases h

/-- What a parsed roster fact guarantees. -/
structure GroupRosterFact.WellFormed (fact : GroupRosterFact) : Prop where
  groupId_ne : fact.groupId ≠ ""
  id_eq : fact.group.id = fact.groupId
  description_truthy : truthy fact.group.description = fact.group.description
  picture_truthy : truthy fact.group.picture = fact.group.picture

theorem parseGroupRosterFactRumor_ok {event : Rumor} {fact : GroupRosterFact}
    (h : parseGroupRosterFactRumor event = .ok fact) :
    isGroupRosterFactEvent event = true ∧ fact.WellFormed := by
  unfold parseGroupRosterFactRumor parseGroupRosterFactWire at h
  simp only [except_bind_eq_ok, ensure_eq_ok] at h
  obtain ⟨-, hevent, -, -, schema, -, -, -, groupId, hgroup, -, -, members, -, admins, -, -, -,
    signer, -, protocol, -, name, -, createdAt, -, revision, -, tag, -,
    createdBy, -, updatedAt, -, h⟩ := h
  cases h
  have habout : (firstTagValue event.tags "about").or (firstTagValue event.tags "description")
      ≠ some "" := by
    cases hfirst : firstTagValue event.tags "about" with
    | none => exact firstTagValue_ne_empty _ _
    | some value =>
        have hvalue := firstTagValue_ne_empty event.tags "about"
        rw [hfirst] at hvalue
        exact hvalue
  exact ⟨hevent, groupIdFromTags_ne_empty hgroup, rfl, truthy_of_ne habout,
    truthy_of_ne (firstTagValue_ne_empty _ _)⟩

end NostrDoubleRatchet.TypeScript
