import NostrDoubleRatchet.AppKeys

/-!
What the index of AppKeys events holds: every candidate was read from a verified event
of its owner, and an event that is not new changes nothing.
-/

namespace NostrDoubleRatchet

variable {K T : Type} [LinearOrder K]

/-- The two events say the same, whatever their signatures. -/
structure Event.SameSigned (e f : Event K) : Prop where
  pubkey : e.pubkey = f.pubkey
  createdAt : e.createdAt = f.createdAt
  kind : e.kind = f.kind
  tags : e.tags = f.tags
  content : e.content = f.content

/-- What the `nostr` crate promises: a key read from bytes has these bytes, and the id
of a verified event is the hash of what it says. -/
structure EvidenceLaws (K : Type) {T : Type} [Primitives K T] [EventPrimitives K] : Prop where
  keyBytes : ∀ bytes key : K, Primitives.publicKeyFromSlice bytes = .ok key → key = bytes
  eventId : ∀ e f : Event K, EventPrimitives.verifyEvent e = true →
    EventPrimitives.verifyEvent f = true → e.id = f.id → e.SameSigned f

theorem AppKeys.hasEquivalentAuthorizationRoster_refl (appKeys : AppKeys K) :
    appKeys.hasEquivalentAuthorizationRoster appKeys = true := by
  unfold hasEquivalentAuthorizationRoster
  rw [Bool.and_eq_true, decide_eq_true_eq, List.all_eq_true]
  refine ⟨rfl, ?_⟩
  rintro ⟨pubkey, device⟩ hmem
  rw [SortedMap.mem_entries] at hmem
  simp [hmem]

section

variable [Primitives K T] [EventPrimitives K]

theorem AppKeys.fromEvent_verified {event : Event K} {appKeys : AppKeys K}
    (h : AppKeys.fromEvent event = .ok appKeys) : EventPrimitives.verifyEvent event = true := by
  unfold AppKeys.fromEvent at h
  cases hverify : EventPrimitives.verifyEvent event with
  | true => rfl
  | false =>
      rw [hverify] at h
      cases h

/-- A roster is read from what an event says. -/
theorem AppKeys.fromEvent_congr {e f : Event K} (h : e.SameSigned f)
    (he : EventPrimitives.verifyEvent e = true) (hf : EventPrimitives.verifyEvent f = true) :
    AppKeys.fromEvent e = AppKeys.fromEvent f := by
  have hdevices : ∀ tags, deviceEntries e tags = deviceEntries f tags := by
    intro tags
    fun_induction deviceEntries e tags with
    | case1 => rfl
    | case2 pkHex createdAt tail rest ih => rw [deviceEntries, ih, h.createdAt]
    | case3 tag rest hshape ih =>
        rw [deviceEntries, ih]
        exact hshape
  have htags : ∀ name, tagValues e name = tagValues f name := by
    intro name
    rw [tagValues, tagValues, h.tags]
  unfold AppKeys.fromEvent isAppKeysEvent requiredInteger pubkeyFromRequiredTag
    requiredTagValue appKeysProfileIdFromEvent
  simp only [he, hf, h.kind, h.content, h.pubkey, h.tags, htags, hdevices]

theorem appKeysAuthorizationCandidate_fromEvent {owner : K} {event : Event K} {now : Nat}
    {appKeys : AppKeys K} (h : appKeysAuthorizationCandidate owner event now = .ok appKeys) :
    event.pubkey = owner ∧ event.createdAt ≤ u64Max ∧ AppKeys.fromEvent event = .ok appKeys := by
  unfold appKeysAuthorizationCandidate at h
  split at h
  · cases h
  · rename_i howner
    split at h
    · cases h
    · rename_i htime
      obtain ⟨length, -, h⟩ := except_bind_eq_ok.mp h
      split at h
      · cases h
      · dsimp only at h
        split at h
        · cases h
        · split at h
          · cases h
          · exact ⟨not_not.mp howner, (not_lt.mp htime).trans (min_le_right _ _), h⟩

/-- An accepted event is accepted again at its own time. -/
theorem appKeysAuthorizationCandidate_ownTime {owner : K} {event : Event K} {now : Nat}
    {appKeys : AppKeys K} (h : appKeysAuthorizationCandidate owner event now = .ok appKeys) :
    appKeysAuthorizationCandidate owner event event.createdAt = .ok appKeys := by
  have hlimit := (appKeysAuthorizationCandidate_fromEvent h).2.1
  have htime : ¬ event.createdAt >
      min (event.createdAt + APP_KEYS_AUTHORIZATION_MAX_FUTURE_SKEW_SECS) u64Max :=
    not_lt.mpr (le_min (Nat.le_add_right _ _) hlimit)
  unfold appKeysAuthorizationCandidate at h ⊢
  split at h
  · cases h
  · rename_i howner
    rw [if_neg howner, if_neg htime]
    split at h
    · cases h
    · exact h

end

namespace VerifiedAppKeysIndex

/-- Every candidate is stored under its owner and its id, at the time of the head, and
was read from its event. -/
def WellFormed [Primitives K T] [EventPrimitives K] (index : VerifiedAppKeysIndex K) : Prop :=
  ∀ owner head id candidate, index.heads.get? owner = some head →
    head.candidates.get? id = some candidate →
    candidate.event.id = id ∧ candidate.event.createdAt = head.createdAtSecs ∧
      appKeysAuthorizationCandidate owner candidate.event candidate.event.createdAt =
        .ok candidate.appKeys

section

variable [Primitives K T] [EventPrimitives K] {index : VerifiedAppKeysIndex K}

theorem wellFormed_default :
    (default : VerifiedAppKeysIndex K).WellFormed := by
  intro owner head id candidate hhead
  cases hhead

/-- What taking in a candidate does: nothing, when a newer event or one with the same roster
is known, or a new candidate under the event's owner. -/
theorem ingestCandidate_cases {event : Event K} {appKeys : AppKeys K}
    (hlaws : EvidenceLaws K) (hindex : index.WellFormed)
    (hevent : appKeysAuthorizationCandidate event.pubkey event event.createdAt = .ok appKeys) :
    (index.ingestCandidate event appKeys = (false, index) ∧
      ∃ head, index.heads.get? event.pubkey = some head ∧
        (event.createdAt < head.createdAtSecs ∨ event.createdAt = head.createdAtSecs ∧
          ∃ candidate ∈ head.candidates.values,
            candidate.appKeys.hasEquivalentAuthorizationRoster appKeys = true)) ∨
    ∃ head : VerifiedAppKeysHead K,
      index.ingestCandidate event appKeys =
        (true, ⟨index.heads.insert event.pubkey { head with
          candidates := head.candidates.insert event.id ⟨event, appKeys⟩ }⟩) ∧
      head.createdAtSecs = event.createdAt ∧ head.candidates.get? event.id = none ∧
      (head.candidates = SortedMap.empty ∧ (∀ known, index.heads.get? event.pubkey = some known →
        known.createdAtSecs < event.createdAt) ∨ index.heads.get? event.pubkey = some head) ∧
      (∀ candidate ∈ head.candidates.values,
        candidate.appKeys.hasEquivalentAuthorizationRoster appKeys = false) := by
  have hread := (appKeysAuthorizationCandidate_fromEvent hevent).2.2
  unfold ingestCandidate
  cases hhead : index.heads.get? event.pubkey with
  | none =>
      exact Or.inr ⟨⟨event.createdAt, SortedMap.empty⟩, rfl, rfl, rfl,
        Or.inl ⟨rfl, fun known hknown => by cases hknown⟩, fun candidate hmem => by cases hmem⟩
  | some current =>
      dsimp only
      split
      · rename_i holder
        exact Or.inl ⟨rfl, current, rfl, Or.inl holder⟩
      · rename_i hnotOlder
        by_cases hnewer : event.createdAt > current.createdAtSecs
        · simp only [if_pos hnewer]
          refine Or.inr ⟨⟨event.createdAt, SortedMap.empty⟩, rfl, rfl, rfl, Or.inl ⟨rfl, ?_⟩,
            fun candidate hmem => by cases hmem⟩
          rintro known ⟨⟩
          exact hnewer
        · simp only [if_neg hnewer]
          have htime := le_antisymm (not_lt.mp hnotOlder) (not_lt.mp hnewer)
          split
          · rename_i hany
            obtain ⟨candidate, hmem, hequivalent⟩ := List.any_eq_true.mp hany
            exact Or.inl ⟨rfl, current, rfl, Or.inr ⟨htime.symm, candidate, hmem, hequivalent⟩⟩
          · rename_i hany
            have hother : ∀ candidate ∈ current.candidates.values,
                candidate.appKeys.hasEquivalentAuthorizationRoster appKeys = false := by
              intro candidate hmem
              by_contra hequivalent
              exact hany (List.any_eq_true.mpr ⟨candidate, hmem, by simpa using hequivalent⟩)
            have hfresh : current.candidates.get? event.id = none := by
              cases hget : current.candidates.get? event.id with
              | none => rfl
              | some candidate =>
                  obtain ⟨hid, -, hstored⟩ := hindex _ _ _ _ hhead hget
                  have hstored := (appKeysAuthorizationCandidate_fromEvent hstored).2.2
                  have hverifyStored := AppKeys.fromEvent_verified hstored
                  have hverify := AppKeys.fromEvent_verified hread
                  have hsame := hlaws.eventId candidate.event event hverifyStored hverify hid
                  rw [AppKeys.fromEvent_congr hsame hverifyStored hverify, hread] at hstored
                  have hfalse := hother candidate (SortedMap.mem_values.mpr ⟨_, hget⟩)
                  rw [← Except.ok.inj hstored,
                    appKeys.hasEquivalentAuthorizationRoster_refl] at hfalse
                  cases hfalse
            refine Or.inr ⟨current, ?_, htime, hfresh, Or.inr rfl, hother⟩
            rw [hfresh]
            rfl

theorem ingestCandidate_wellFormed {event : Event K} {appKeys : AppKeys K}
    (hlaws : EvidenceLaws K) (hindex : index.WellFormed)
    (hevent : appKeysAuthorizationCandidate event.pubkey event event.createdAt = .ok appKeys) :
    (index.ingestCandidate event appKeys).2.WellFormed := by
  obtain ⟨hsame, -⟩ | ⟨head, hnew, htime, -, hhead, -⟩ :=
    ingestCandidate_cases hlaws hindex hevent
  · rw [hsame]
    exact hindex
  · rw [hnew]
    intro owner head' id candidate hget hcandidate
    rw [SortedMap.get?_insert] at hget
    split at hget
    · rename_i howner
      cases hget
      subst howner
      rw [SortedMap.get?_insert] at hcandidate
      split at hcandidate
      · rename_i hid
        cases hcandidate
        exact ⟨hid, htime.symm, hevent⟩
      · rcases hhead with ⟨hempty, -⟩ | hold
        · rw [hempty] at hcandidate
          cases hcandidate
        · have hstored := hindex event.pubkey head id candidate hold hcandidate
          exact hstored
    · exact hindex _ _ _ _ hget hcandidate

/-- What an observed event does to the index. -/
theorem ingest_cases {event : Event K} {now : Nat} {result : Except Error Bool}
    {index' : VerifiedAppKeysIndex K} (hlaws : EvidenceLaws K) (hindex : index.WellFormed)
    (h : index.ingest event now = (result, index')) :
    (index' = index ∧ result ≠ .ok true) ∨
    (result = .ok true ∧ index'.WellFormed ∧
      (∀ owner ≠ event.pubkey, index'.heads.get? owner = index.heads.get? owner) ∧
      ∃ appKeys, AppKeys.fromEvent event = .ok appKeys ∧
        index'.appKeysForEvent event.pubkey event.id = some appKeys) := by
  unfold ingest at h
  split at h
  · cases h
    exact Or.inl ⟨rfl, fun h => by cases h⟩
  · rename_i appKeys hcandidate
    have hevent := appKeysAuthorizationCandidate_ownTime hcandidate
    have hwell := ingestCandidate_wellFormed hlaws hindex hevent
    obtain ⟨hsame, -⟩ | ⟨head, hnew, -, -, -, -⟩ := ingestCandidate_cases hlaws hindex hevent
    · rw [hsame] at h
      cases h
      exact Or.inl ⟨rfl, fun h => by cases h⟩
    · rw [hnew] at hwell h
      cases h
      refine Or.inr ⟨rfl, hwell, fun owner howner => ?_, appKeys,
        (appKeysAuthorizationCandidate_fromEvent hcandidate).2.2, ?_⟩
      · exact SortedMap.get?_insert_ne _ _ (Ne.symm howner)
      · simp [appKeysForEvent]

end

end VerifiedAppKeysIndex

end NostrDoubleRatchet
