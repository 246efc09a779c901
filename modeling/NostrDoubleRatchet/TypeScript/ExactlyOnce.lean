import NostrDoubleRatchet.TypeScript.Conversation

/-!
Two TypeScript sessions accept each event once, however late it comes: the store of skipped keys
holds the key of every event that was passed and not accepted. The receiver refuses rumors that
`parseInnerRumor` cannot read; the only ones a session sends are those from a time that is not a
safe integer.
-/

namespace NostrDoubleRatchet.TypeScript.DoubleRatchet

open KeySchedule

section

variable {T : Type} {codec : RumorCodec T} {innerEvent : JsonValue}

/-- `JSON` keeps the rumors a session builds, and `getEventHash` is a digest of the fields that
`validateEvent` checks. -/
structure RumorLaws (codec : RumorCodec T) : Prop where
  jsonParse_jsonStringify : ∀ innerEvent, Built codec innerEvent →
    codec.jsonParse (codec.jsonStringify innerEvent) = .ok innerEvent
  isLowerHex64_hash : ∀ value id, codec.getEventHash value = .ok id → isLowerHex64 id = true
  validateEvent_hashed : ∀ event kind now id,
    codec.getEventHash (.object (innerFields event kind now)) = .ok id →
    codec.validateEvent (.object (innerFields event kind now ++ [("id", .string id)])) = true
  getEventHash_id : ∀ event kind now id,
    codec.getEventHash (.object (innerFields event kind now)) = .ok id →
    codec.getEventHash (.object (innerFields event kind now ++ [("id", .string id)])) = .ok id

/-- `created_at` of a rumor. -/
def rumorTime (innerEvent : JsonValue) : Option Int :=
  match innerEvent with
  | .object fields =>
      match fields.lookup "created_at" with
      | some (.number createdAt) => createdAt
      | _ => none
  | _ => none

def SafeTime (innerEvent : JsonValue) : Prop :=
  ∃ createdAt, rumorTime innerEvent = some createdAt ∧ createdAt ≤ maxSafeInteger

theorem lookup_id (event : PartialEvent) (kind now : Nat) (id : String) :
    (innerFields event kind now ++ [("id", JsonValue.string id)]).lookup "id" =
      some (.string id) := by
  rfl

theorem lookup_createdAt (event : PartialEvent) (kind now : Nat) (id : String) :
    (innerFields event kind now ++ [("id", JsonValue.string id)]).lookup "created_at" =
      some (.number (some ((event.createdAt.filter (· ≠ 0)).getD (now / 1000) : Nat))) := by
  rfl

theorem names_sorted (event : PartialEvent) (kind now : Nat) (id : String) :
    ((innerFields event kind now ++ [("id", JsonValue.string id)]).map Prod.fst).insertionSort
      (· ≤ ·) = ["content", "created_at", "id", "kind", "pubkey", "tags"] := by
  change (["content", "kind", "created_at", "tags", "pubkey", "id"] : List String).insertionSort
    (· ≤ ·) = _
  decide +kernel

/-- The receiver reads every rumor a session builds from a safe time. -/
theorem parseInnerRumor_built (hlaws : RumorLaws codec) (hbuilt : Built codec innerEvent)
    (htime : SafeTime innerEvent) :
    parseInnerRumor codec (codec.jsonStringify innerEvent) = .ok innerEvent := by
  unfold parseInnerRumor
  rw [hlaws.jsonParse_jsonStringify innerEvent hbuilt]
  obtain ⟨event, kind, now, id, hhash, rfl⟩ := hbuilt
  obtain ⟨createdAt, hcreatedAt, hsafe⟩ := htime
  unfold rumorTime at hcreatedAt
  dsimp only at hcreatedAt
  rw [lookup_createdAt] at hcreatedAt
  cases hcreatedAt
  change (if _ then _ else _) = _
  rw [if_neg (not_not_intro (names_sorted event kind now id)),
    hlaws.validateEvent_hashed event kind now id hhash, lookup_id, lookup_createdAt]
  change (if _ then _ else (codec.getEventHash _ >>= _)) = _
  rw [hlaws.isLowerHex64_hash _ id hhash, if_neg]
  · rw [hlaws.getEventHash_id event kind now id hhash]
    change (if id = id then _ else _) = _
    rw [if_pos rfl]
    rfl
  · have hnonneg := Int.natCast_nonneg ((event.createdAt.filter (· ≠ 0)).getD (now / 1000))
    simp only [Bool.not_true, Bool.false_or, Bool.or_eq_true, decide_eq_true_eq]
    omega

/-- What is read is what was sent. -/
theorem eq_of_parseInnerRumor (hlaws : RumorLaws codec) (hbuilt : Built codec innerEvent)
    {read : JsonValue}
    (h : parseInnerRumor codec (codec.jsonStringify innerEvent) = .ok read) :
    read = innerEvent := by
  unfold parseInnerRumor at h
  rw [hlaws.jsonParse_jsonStringify innerEvent hbuilt] at h
  obtain ⟨event, kind, now, id, hhash, rfl⟩ := hbuilt
  change (if _ then _ else _) = _ at h
  rw [if_neg (not_not_intro (names_sorted event kind now id)),
    hlaws.validateEvent_hashed event kind now id hhash, lookup_id, lookup_createdAt] at h
  change (if _ then _ else (codec.getEventHash _ >>= _)) = _ at h
  rw [hlaws.getEventHash_id event kind now id hhash] at h
  split at h
  · cases h
  · change (if id = id then _ else _) = _ at h
    rw [if_pos rfl] at h
    cases h
    rfl

end

namespace Conversation

variable {K T : Type} [LinearOrder K] [Primitives K T]

/-- How far ahead of a state an event's numbers are. -/
def SkipsWithin (message : SentEvent K T) (state : SessionState K) : Prop :=
  (state.theirCurrentNostrPublicKey = some message.event.pubkey →
    message.header.number ≤ state.receivingChainMessageNumber + MAX_SKIP) ∧
  (state.theirNextNostrPublicKey = message.event.pubkey →
    message.header.number ≤ MAX_SKIP ∧
      message.header.previousChainLength ≤ state.receivingChainMessageNumber + MAX_SKIP)

section

variable {secrets : Nat → K} {shared : K} {lengths : Nat → Nat} {phase received : Party → Nat}
  {codec : RumorCodec T} {x : Conversation K T} {index : Nat} {m : SentEvent K T}

/-- An event that was not accepted is accepted when it is delivered. -/
theorem Consistent.deliver_unaccepted (hlaws : SymbolicLaws K)
    (h : Consistent secrets shared lengths phase received codec x) (hcodec : RumorLaws codec)
    (hm : x.sent[index]? = some m) (hunaccepted : index ∉ x.accepted)
    (hskips : SkipsWithin m (x.states m.author.other)) (htime : SafeTime m.innerEvent)
    {callbacks : JsonValue → Except String Unit} (hcallbacks : callbacks m.innerEvent = .ok ()) :
    ∃ next, x.deliver codec m callbacks = (.ok (some m.innerEvent), next) := by
  obtain ⟨c, hsent⟩ := h.sent m (List.mem_of_getElem? hm)
  obtain ⟨hle, hparity⟩ := h.chain_le hsent
  have hat := h.atPhase m.author.other
  have hdrawn := lt_drawn phase m.author.other
  have hunaccepted' : ¬ x.acceptedAt (pubkey secrets c) m.header.number := by
    rw [← hsent.event.sender]
    exact fun haccepted => hunaccepted ((h.acceptedAt_iff hm).mp haccepted)
  refine receiveEvent_ok hlaws h.distinct hat (h.stores m.author.other) hdrawn hle hparity
    hsent.event hsent.number hunaccepted' (h.unsent m.author.other _ (Nat.le_succ _) (by omega))
    ?_ ?_ ?_ (parseInnerRumor_built hcodec hsent.built htime) hcallbacks
  · rintro rfl
    exact h.drawn_distinct hsent
  · intro hcurrent
    rw [← hat.receivingNumber]
    refine hskips.1 ?_
    rw [hat.theirCurrent, back_eq_some.mpr hcurrent, hsent.event.sender]
    rfl
  · intro hnext
    rw [← hat.receivingNumber, ← hsent.header]
    refine hskips.2 ?_
    rw [hat.theirNext, hsent.event.sender, hnext]

end

namespace LateGreeting

open SymbolicStart

theorem eq_of_isHello {time : Nat} (htime : time ≠ 0) {event : PartialEvent} {kind now : Nat}
    (h : isHello time (.object (innerFields event kind now)) = true) :
    innerFields event kind now = innerFields (hello time) 14 7000 := by
  unfold innerFields at h ⊢
  cases htags : event.tags.getD [] with
  | cons tag rest =>
      rw [htags] at h
      cases h
  | nil =>
      rw [htags] at h
      simp only [isHello, List.map_nil, List.take_succ_cons, List.take_zero, Bool.and_eq_true,
        decide_eq_true_eq, List.cons.injEq, Option.some.injEq] at h
      obtain ⟨⟨⟨-, hcontent, -, -, -, -, hpubkey, -⟩, hkind⟩, hcreatedAt⟩ := h
      have hsame : ((hello time).createdAt.filter (· ≠ 0)).getD (7000 / 1000) = time := by
        change (if decide (time ≠ 0) = true then some time else none).getD (7000 / 1000) = time
        rw [if_pos (decide_eq_true htime)]
        rfl
      rw [hcontent, hpubkey, hkind, hcreatedAt, hsame]
      rfl

theorem hash_eq_ok {time : Nat} {value : JsonValue} {id : String}
    (h : (codec time).getEventHash value = .ok id) : isHello time value = true ∧ id = helloId := by
  change (if isHello time value = true then _ else _) = _ at h
  split at h
  · rename_i hvalue
    cases h
    exact ⟨hvalue, rfl⟩
  · cases h

theorem rumorLaws {time : Nat} (htime : time ≠ 0) : RumorLaws (codec time) where
  jsonParse_jsonStringify := by
    rintro innerEvent ⟨event, kind, now, id, hhash, rfl⟩
    obtain ⟨hvalue, rfl⟩ := hash_eq_ok hhash
    change Except.ok (rumor time) = _
    rw [rumor, eq_of_isHello htime hvalue]
  isLowerHex64_hash := by
    intro value id hhash
    obtain ⟨-, rfl⟩ := hash_eq_ok hhash
    decide +kernel
  validateEvent_hashed := fun _ _ _ _ _ => rfl
  getEventHash_id := fun _ _ _ _ hhash => hhash

/-- The first message arrives after both sides have moved on. -/
def steps : List (ConversationStep KeyTerm) :=
  [sendHello .initiator 7, sendHello .initiator 7, receiveAt 1, sendHello .responder 7,
    receiveAt 2, sendHello .initiator 7, receiveAt 3]

end LateGreeting

end Conversation

end NostrDoubleRatchet.TypeScript.DoubleRatchet
