import NostrDoubleRatchet.SessionManager.Authorization

/-!
The index of AppKeys events does not depend on the order in which events arrive. After any
accepted events it answers from the newest events of the owner: a device is authorized when
all of them list it, excluded when none does, and ambiguous when they disagree.
-/

namespace NostrDoubleRatchet

variable {K T : Type} [LinearOrder K]

/-- Equivalent rosters list the same devices. -/
theorem AppKeys.isSome_getDevice_of_equivalent {appKeys other : AppKeys K}
    (h : appKeys.hasEquivalentAuthorizationRoster other = true) (device : K) :
    (appKeys.getDevice device).isSome = (other.getDevice device).isSome := by
  unfold hasEquivalentAuthorizationRoster at h
  rw [Bool.and_eq_true, decide_eq_true_eq, List.all_eq_true] at h
  obtain ⟨hlength, hentries⟩ := h
  have hsubset : appKeys.devices.keys ⊆ other.devices.keys := by
    intro key hkey
    obtain ⟨entry, hentry⟩ := SortedMap.mem_keys.mp hkey
    have hlisted := hentries (key, entry) (SortedMap.mem_entries.mpr hentry)
    cases hget : other.devices.get? key with
    | none =>
        dsimp only at hlisted
        rw [hget] at hlisted
        cases hlisted
    | some found => exact SortedMap.mem_keys.mpr ⟨found, hget⟩
  have hperm : appKeys.devices.keys.Perm other.devices.keys := by
    refine (List.subperm_of_subset appKeys.devices.nodup_keys hsubset).perm_of_length_le ?_
    rw [SortedMap.length_keys, SortedMap.length_keys, hlength]
  have hisSome : ∀ roster : AppKeys K,
      (roster.getDevice device).isSome = true ↔ device ∈ roster.devices.keys := by
    intro roster
    rw [SortedMap.mem_keys, getDevice, Option.isSome_iff_exists]
  rw [Bool.eq_iff_iff, hisSome, hisSome, hperm.mem_iff]

section

variable [Primitives K T] [EventPrimitives K]

/-- Whether an event lists a device. -/
def listsDevice (device : K) (event : Event K) : Bool :=
  match AppKeys.fromEvent event with
  | .error _ => false
  | .ok appKeys => (appKeys.getDevice device).isSome

omit [Primitives K T] [EventPrimitives K] in
/-- The events of an owner with the greatest time. -/
def newestEvents (owner : K) (events : List (Event K)) : List (Event K) :=
  events.filter fun event => event.pubkey = owner ∧
    ∀ other ∈ events, other.pubkey = owner → other.createdAt ≤ event.createdAt

/-- What the newest events of an owner say about a device. -/
def newestMembership (owner device : K) (events : List (Event K)) : DeviceMembership :=
  let newest := newestEvents owner events
  if newest = [] then .missing
  else if newest.all (listsDevice device) then .authorized
  else if newest.any (listsDevice device) then .ambiguous
  else .excluded

namespace VerifiedAppKeysIndex

/-- Take in events as they arrive, each at its time of arrival. -/
def ingestAll (index : VerifiedAppKeysIndex K) (observed : List (Event K × Nat)) :
    VerifiedAppKeysIndex K :=
  observed.foldl (fun index event => (index.ingest event.1 event.2).2) index

/-- The index stands for the events: the head of an owner has the time of its newest events,
its candidates are among them, and every one of them is equivalent to a candidate. -/
structure Represents (index : VerifiedAppKeysIndex K) (events : List (Event K)) : Prop where
  wellFormed : index.WellFormed
  known : ∀ event ∈ events, (index.heads.get? event.pubkey).isSome
  newest : ∀ owner head, index.heads.get? owner = some head →
    (∃ event ∈ events, event.pubkey = owner ∧ event.createdAt = head.createdAtSecs) ∧
      ∀ event ∈ events, event.pubkey = owner → event.createdAt ≤ head.createdAtSecs
  candidate : ∀ owner head id candidate, index.heads.get? owner = some head →
    head.candidates.get? id = some candidate → candidate.event ∈ events
  covered : ∀ owner head, index.heads.get? owner = some head → ∀ event ∈ events,
    event.pubkey = owner → event.createdAt = head.createdAtSecs → ∃ appKeys,
      AppKeys.fromEvent event = .ok appKeys ∧ ∃ candidate ∈ head.candidates.values,
        candidate.appKeys.hasEquivalentAuthorizationRoster appKeys = true

namespace Represents

variable {index : VerifiedAppKeysIndex K} {events : List (Event K)}

theorem nil : (default : VerifiedAppKeysIndex K).Represents [] :=
  ⟨wellFormed_default, (fun _ h => by cases h), (fun _ _ h => by cases h),
    (fun _ _ _ _ h => by cases h), (fun _ _ h => by cases h)⟩

/-- An event that changes nothing is older than the head or equivalent to a candidate. -/
private theorem append_same (h : index.Represents events) {event : Event K}
    {appKeys : AppKeys K} (hread : AppKeys.fromEvent event = .ok appKeys)
    {head : VerifiedAppKeysHead K} (hhead : index.heads.get? event.pubkey = some head)
    (hsame : event.createdAt < head.createdAtSecs ∨ event.createdAt = head.createdAtSecs ∧
      ∃ candidate ∈ head.candidates.values,
        candidate.appKeys.hasEquivalentAuthorizationRoster appKeys = true) :
    index.Represents (events ++ [event]) := by
  have hmem : ∀ {found}, found ∈ events ++ [event] → found ∈ events ∨ found = event :=
    fun hfound => (List.mem_append.mp hfound).imp_right List.mem_singleton.mp
  refine ⟨h.wellFormed, ?_, ?_, ?_, ?_⟩
  · intro found hfound
    obtain hold | rfl := hmem hfound
    · exact h.known found hold
    · exact Option.isSome_of_eq_some hhead
  · intro owner known hknown
    obtain ⟨⟨newest, hnewest, howner, htime⟩, hmax⟩ := h.newest owner known hknown
    refine ⟨⟨newest, List.mem_append_left _ hnewest, howner, htime⟩, ?_⟩
    intro found hfound hfoundOwner
    obtain hold | rfl := hmem hfound
    · exact hmax found hold hfoundOwner
    · subst hfoundOwner
      rw [hhead] at hknown
      cases hknown
      obtain hlt | ⟨heq, -⟩ := hsame
      · exact hlt.le
      · exact heq.le
  · intro owner known id candidate hknown hcandidate
    exact List.mem_append_left _ (h.candidate owner known id candidate hknown hcandidate)
  · intro owner known hknown found hfound hfoundOwner htime
    obtain hold | rfl := hmem hfound
    · exact h.covered owner known hknown found hold hfoundOwner htime
    · subst hfoundOwner
      rw [hhead] at hknown
      cases hknown
      obtain hlt | ⟨-, hequivalent⟩ := hsame
      · exact absurd htime hlt.ne
      · exact ⟨appKeys, hread, hequivalent⟩

/-- A new candidate joins the others of its time, or starts anew. -/
private theorem append_new (h : index.Represents events) {event : Event K}
    {appKeys : AppKeys K} (hread : AppKeys.fromEvent event = .ok appKeys)
    {head : VerifiedAppKeysHead K} {index' : VerifiedAppKeysIndex K}
    (hwell : index'.WellFormed)
    (hindex : index'.heads = index.heads.insert event.pubkey { head with
      candidates := head.candidates.insert event.id ⟨event, appKeys⟩ })
    (htime : head.createdAtSecs = event.createdAt)
    (hfree : head.candidates.get? event.id = none)
    (hhead : head.candidates = SortedMap.empty ∧
      (∀ known, index.heads.get? event.pubkey = some known →
        known.createdAtSecs < event.createdAt) ∨ index.heads.get? event.pubkey = some head) :
    index'.Represents (events ++ [event]) := by
  have hmem : ∀ {found}, found ∈ events ++ [event] → found ∈ events ∨ found = event :=
    fun hfound => (List.mem_append.mp hfound).imp_right List.mem_singleton.mp
  have hget : ∀ owner found, index'.heads.get? owner = some found →
      (owner = event.pubkey ∧ found = { head with
        candidates := head.candidates.insert event.id ⟨event, appKeys⟩ }) ∨
      (owner ≠ event.pubkey ∧ index.heads.get? owner = some found) := by
    intro owner found hfound
    rw [hindex, SortedMap.get?_insert] at hfound
    split at hfound
    · cases hfound
      exact Or.inl ⟨Eq.symm ‹_›, rfl⟩
    · exact Or.inr ⟨Ne.symm ‹_›, hfound⟩
  have hmax : ∀ found ∈ events, found.pubkey = event.pubkey →
      found.createdAt ≤ event.createdAt := by
    intro found hfound howner
    obtain ⟨known, hknown⟩ := Option.isSome_iff_exists.mp (h.known found hfound)
    have hle := (h.newest _ known hknown).2 found hfound rfl
    rw [howner] at hknown
    obtain ⟨-, hlt⟩ | hsame := hhead
    · exact hle.trans (hlt known hknown).le
    · rw [hsame] at hknown
      cases hknown
      exact hle.trans htime.le
  refine ⟨hwell, ?_, ?_, ?_, ?_⟩
  · intro found hfound
    rw [hindex, SortedMap.get?_insert]
    split
    · rfl
    · rename_i hne
      obtain hold | rfl := hmem hfound
      · exact h.known found hold
      · exact absurd rfl hne
  · intro owner found hfound
    obtain ⟨rfl, rfl⟩ | ⟨hne, hold⟩ := hget owner found hfound
    · refine ⟨⟨event, List.mem_append_right _ List.mem_cons_self, rfl, htime.symm⟩, ?_⟩
      intro other hother howner
      rw [htime]
      obtain hold | rfl := hmem hother
      · exact hmax other hold howner
      · exact le_rfl
    · obtain ⟨⟨newest, hnewest, howner, hsecs⟩, hle⟩ := h.newest owner found hold
      refine ⟨⟨newest, List.mem_append_left _ hnewest, howner, hsecs⟩, ?_⟩
      intro other hother hotherOwner
      obtain hold | rfl := hmem hother
      · exact hle other hold hotherOwner
      · exact absurd hotherOwner.symm hne
  · intro owner found id candidate hfound hcandidate
    obtain ⟨rfl, rfl⟩ | ⟨-, hold⟩ := hget owner found hfound
    · rw [SortedMap.get?_insert] at hcandidate
      split at hcandidate
      · cases hcandidate
        exact List.mem_append_right _ List.mem_cons_self
      · obtain ⟨hempty, -⟩ | hsame := hhead
        · rw [hempty] at hcandidate
          cases hcandidate
        · exact List.mem_append_left _ (h.candidate _ head id candidate hsame hcandidate)
    · exact List.mem_append_left _ (h.candidate owner found id candidate hold hcandidate)
  · intro owner found hfound other hother howner hsecs
    obtain ⟨rfl, rfl⟩ | ⟨hne, hold⟩ := hget owner found hfound
    · obtain hold | rfl := hmem hother
      · obtain ⟨-, hlt⟩ | hsame := hhead
        · -- an older event cannot have the time of the new head
          obtain ⟨known, hknown⟩ := Option.isSome_iff_exists.mp (h.known other hold)
          have hle := (h.newest _ known hknown).2 other hold rfl
          rw [howner] at hknown
          exact absurd (hsecs.trans htime) (hle.trans_lt (hlt known hknown)).ne
        · obtain ⟨read, hreadOther, candidate, hcandidate, hequivalent⟩ :=
            h.covered _ head hsame other hold howner hsecs
          obtain ⟨id, hid⟩ := SortedMap.mem_values.mp hcandidate
          refine ⟨read, hreadOther, candidate, SortedMap.mem_values.mpr ⟨id, ?_⟩, hequivalent⟩
          rw [SortedMap.get?_insert_ne]
          · exact hid
          · rintro rfl
            rw [hfree] at hid
            cases hid
      · exact ⟨appKeys, hread, ⟨other, appKeys⟩,
          SortedMap.mem_values.mpr ⟨_, SortedMap.get?_insert_self _ _ _⟩,
          appKeys.hasEquivalentAuthorizationRoster_refl⟩
    · obtain hold' | rfl := hmem hother
      · exact h.covered owner found hold other hold' howner hsecs
      · exact absurd howner.symm hne

theorem ingest (hlaws : EvidenceLaws K) (h : index.Represents events) {event : Event K}
    {now : Nat} {appKeys : AppKeys K}
    (haccepted : appKeysAuthorizationCandidate event.pubkey event now = .ok appKeys) :
    (index.ingest event now).2.Represents (events ++ [event]) := by
  have hevent := appKeysAuthorizationCandidate_ownTime haccepted
  have hread := (appKeysAuthorizationCandidate_fromEvent haccepted).2.2
  have hwell := ingestCandidate_wellFormed hlaws h.wellFormed hevent
  have hingest : (index.ingest event now).2 = (index.ingestCandidate event appKeys).2 := by
    unfold VerifiedAppKeysIndex.ingest
    rw [haccepted]
  rw [hingest]
  obtain ⟨hsame, head, hhead, hwhy⟩ | ⟨head, hnew, htime, hfree, hhead, -⟩ :=
    ingestCandidate_cases hlaws h.wellFormed hevent
  · rw [hsame]
    exact h.append_same hread hhead hwhy
  · rw [hnew] at hwell ⊢
    exact h.append_new hread hwell rfl htime hfree hhead

theorem ingestAll (hlaws : EvidenceLaws K) {observed : List (Event K × Nat)}
    (h : index.Represents events)
    (haccepted : ∀ event ∈ observed, ∃ appKeys,
      appKeysAuthorizationCandidate event.1.pubkey event.1 event.2 = .ok appKeys) :
    (index.ingestAll observed).Represents (events ++ observed.map Prod.fst) := by
  induction observed generalizing index events with
  | nil =>
      rw [List.map_nil, List.append_nil]
      exact h
  | cons event rest ih =>
      obtain ⟨appKeys, hevent⟩ := haccepted event List.mem_cons_self
      have hrest := ih (h.ingest hlaws hevent)
        fun later hlater => haccepted later (List.mem_cons_of_mem _ hlater)
      rw [List.append_assoc, List.singleton_append] at hrest
      exact hrest

/-- A device is listed by a candidate exactly when a newest event lists it. -/
private theorem mem_candidates_iff (h : index.Represents events) {owner : K}
    {head : VerifiedAppKeysHead K} (hhead : index.heads.get? owner = some head) (device : K)
    (listed : Bool) :
    listed ∈ head.candidates.values.map (fun candidate =>
      (candidate.appKeys.getDevice device).isSome) ↔
    ∃ event ∈ newestEvents owner events, listsDevice device event = listed := by
  have hlists : ∀ {event appKeys}, AppKeys.fromEvent event = .ok appKeys →
      listsDevice device event = (appKeys.getDevice device).isSome := by
    intro event appKeys hread
    rw [listsDevice, hread]
  obtain ⟨⟨first, hfirst, hfirstOwner, hfirstTime⟩, hmax⟩ := h.newest owner head hhead
  rw [List.mem_map]
  constructor
  · rintro ⟨candidate, hcandidate, rfl⟩
    obtain ⟨id, hid⟩ := SortedMap.mem_values.mp hcandidate
    obtain ⟨-, htime, hstored⟩ := h.wellFormed owner head id candidate hhead hid
    obtain ⟨howner, -, hread⟩ := appKeysAuthorizationCandidate_fromEvent hstored
    refine ⟨candidate.event, ?_, hlists hread⟩
    rw [newestEvents, List.mem_filter, decide_eq_true_eq]
    refine ⟨h.candidate owner head id candidate hhead hid, howner, ?_⟩
    intro other hother hotherOwner
    exact (hmax other hother hotherOwner).trans htime.ge
  · rintro ⟨event, hevent, rfl⟩
    rw [newestEvents, List.mem_filter, decide_eq_true_eq] at hevent
    obtain ⟨hmem, howner, hnewest⟩ := hevent
    have htime : event.createdAt = head.createdAtSecs :=
      le_antisymm (hmax event hmem howner) (hfirstTime ▸ hnewest first hfirst hfirstOwner)
    obtain ⟨appKeys, hread, candidate, hcandidate, hequivalent⟩ :=
      h.covered owner head hhead event hmem howner htime
    refine ⟨candidate, hcandidate, ?_⟩
    rw [hlists hread, AppKeys.isSome_getDevice_of_equivalent hequivalent]

omit [Primitives K T] [EventPrimitives K] [LinearOrder K] in
private theorem length_eq_one {values : List Bool} (hnodup : values.Nodup) {value : Bool}
    (hmem : value ∈ values) (hall : ∀ other ∈ values, other = value) : values.length = 1 := by
  match values with
  | [] => cases hmem
  | [_] => rfl
  | first :: second :: rest =>
      have hfirst := hall first List.mem_cons_self
      have hsecond := hall second (List.mem_cons_of_mem _ List.mem_cons_self)
      rw [hfirst, hsecond] at hnodup
      exact absurd List.mem_cons_self (List.nodup_cons.mp hnodup).1

theorem membership_eq (h : index.Represents events) (owner device : K) :
    index.membership owner device = newestMembership owner device events := by
  unfold membership newestMembership
  cases hhead : index.heads.get? owner with
  | none =>
      have hnone : newestEvents owner events = [] := by
        rw [newestEvents, List.filter_eq_nil_iff]
        intro event hevent
        have hknown := h.known event hevent
        rw [decide_eq_true_eq]
        rintro ⟨rfl, -⟩
        rw [hhead] at hknown
        cases hknown
      rw [hnone]
      rfl
  | some head =>
      dsimp only
      have hiff := h.mem_candidates_iff hhead device
      generalize hlisted : head.candidates.values.map (fun candidate =>
        (candidate.appKeys.getDevice device).isSome) = listed at hiff
      have hne : newestEvents owner events ≠ [] := by
        obtain ⟨⟨first, hfirst, hfirstOwner, hfirstTime⟩, hmax⟩ := h.newest owner head hhead
        refine List.ne_nil_of_mem (a := first) ?_
        rw [newestEvents, List.mem_filter, decide_eq_true_eq]
        exact ⟨hfirst, hfirstOwner, fun other hother howner =>
          (hmax other hother howner).trans hfirstTime.ge⟩
      rw [if_neg hne]
      have hall : (newestEvents owner events).all (listsDevice device) = true ↔
          false ∉ listed := by
        rw [List.all_eq_true, hiff]
        simp
      have hany : (newestEvents owner events).any (listsDevice device) = true ↔
          true ∈ listed := by
        rw [List.any_eq_true, hiff]
      simp only [hall, hany, List.mem_dedup]
      by_cases htrue : true ∈ listed
      · by_cases hfalse : false ∈ listed
        · have hlength : listed.dedup.length ≠ 1 := by
            intro hone
            obtain ⟨value, hvalue⟩ := List.length_eq_one_iff.mp hone
            have htrue' := List.mem_dedup.mpr htrue
            have hfalse' := List.mem_dedup.mpr hfalse
            rw [hvalue, List.mem_singleton] at htrue' hfalse'
            rw [← htrue'] at hfalse'
            cases hfalse'
          rw [if_pos hlength, if_neg (not_not.mpr hfalse), if_pos htrue]
        · have hlength := length_eq_one (List.nodup_dedup listed) (List.mem_dedup.mpr htrue)
            (fun other hother => by
              cases other with
              | true => rfl
              | false => exact absurd (List.mem_dedup.mp hother) hfalse)
          rw [if_neg (not_not.mpr hlength), if_pos htrue, if_pos hfalse]
      · have hfalse : false ∈ listed := by
          obtain ⟨event, hevent⟩ := List.exists_mem_of_ne_nil _ hne
          cases hlists : listsDevice device event with
          | false => exact (hiff false).mpr ⟨event, hevent, hlists⟩
          | true => exact absurd ((hiff true).mpr ⟨event, hevent, hlists⟩) htrue
        have hlength := length_eq_one (List.nodup_dedup listed) (List.mem_dedup.mpr hfalse)
          (fun other hother => by
            cases other with
            | false => rfl
            | true => exact absurd (List.mem_dedup.mp hother) htrue)
        rw [if_neg (not_not.mpr hlength), if_neg htrue, if_neg (not_not.mpr hfalse), if_neg htrue]

end Represents

end VerifiedAppKeysIndex

/-- Which events there are decides what their newest ones say. -/
theorem newestMembership_congr {events events' : List (Event K)}
    (h : ∀ event, event ∈ events ↔ event ∈ events') (owner device : K) :
    newestMembership owner device events = newestMembership owner device events' := by
  have hnewest : ∀ event, event ∈ newestEvents owner events ↔
      event ∈ newestEvents owner events' := by
    intro event
    simp only [newestEvents, List.mem_filter, h]
  have hnil : newestEvents owner events = [] ↔ newestEvents owner events' = [] := by
    rw [List.eq_nil_iff_forall_not_mem, List.eq_nil_iff_forall_not_mem]
    simp only [hnewest]
  have hall : (newestEvents owner events).all (listsDevice device) =
      (newestEvents owner events').all (listsDevice device) := by
    rw [Bool.eq_iff_iff, List.all_eq_true, List.all_eq_true]
    simp only [hnewest]
  have hany : (newestEvents owner events).any (listsDevice device) =
      (newestEvents owner events').any (listsDevice device) := by
    rw [Bool.eq_iff_iff, List.any_eq_true, List.any_eq_true]
    simp only [hnewest]
  simp only [newestMembership, hnil, hall, hany]

/-- After accepted events the index answers from the newest events of the owner, so in any
order and with any repetition the answers are the same; a rejected event changes nothing. -/
theorem membership_converges (hlaws : EvidenceLaws K) (observed : List (Event K × Nat))
    (haccepted : ∀ event ∈ observed, ∃ appKeys,
      appKeysAuthorizationCandidate event.1.pubkey event.1 event.2 = .ok appKeys) :
    (∀ owner device,
      (VerifiedAppKeysIndex.default.ingestAll observed).membership owner device =
        newestMembership owner device (observed.map Prod.fst)) ∧
    (∀ observed' : List (Event K × Nat),
      (∀ event ∈ observed', ∃ appKeys,
        appKeysAuthorizationCandidate event.1.pubkey event.1 event.2 = .ok appKeys) →
      (∀ event, event ∈ observed.map Prod.fst ↔ event ∈ observed'.map Prod.fst) →
      ∀ owner device,
        (VerifiedAppKeysIndex.default.ingestAll observed').membership owner device =
          (VerifiedAppKeysIndex.default.ingestAll observed).membership owner device) ∧
    ∀ (index : VerifiedAppKeysIndex K) event now error,
      (index.ingest event now).1 = .error error → (index.ingest event now).2 = index := by
  have hspec : ∀ {arrived : List (Event K × Nat)},
      (∀ event ∈ arrived, ∃ appKeys,
        appKeysAuthorizationCandidate event.1.pubkey event.1 event.2 = .ok appKeys) →
      ∀ owner device,
        (VerifiedAppKeysIndex.default.ingestAll arrived).membership owner device =
          newestMembership owner device (arrived.map Prod.fst) :=
    fun harrived => (VerifiedAppKeysIndex.Represents.nil.ingestAll hlaws harrived).membership_eq
  refine ⟨hspec haccepted, ?_, ?_⟩
  · intro observed' haccepted' hsame owner device
    rw [hspec haccepted, hspec haccepted', newestMembership_congr hsame]
  · intro index event now error herror
    unfold VerifiedAppKeysIndex.ingest at herror ⊢
    split at herror
    · rfl
    · cases herror

end

namespace Symbolic

/-- A signed roster of an owner, with devices that are as old as it is. -/
def exampleAppKeysEvent (owner : Nat) (createdAt : Nat) (devices : List Nat) : Event KeyTerm :=
  let unsigned : Event KeyTerm := {
    id := .digest ""
    pubkey := .point (.secret owner)
    createdAt := createdAt
    kind := APP_KEYS_SNAPSHOT_KIND
    tags := [["type", APP_KEYS_FACT_TYPE], ["schema", "1"],
      [APP_KEYS_OWNER_PUBKEY_FACT, Primitives.toHex (KeyTerm.point (.secret owner))],
      ["i", "00000000-0000-0000-0000-000000000001", "subject"]] ++
      devices.map (fun device =>
        ["device", Primitives.toHex (KeyTerm.point (.secret device)), toString createdAt])
    content := ""
    sig := "signed" }
  { unsigned with id := eventId unsigned }

/-- Two rosters of the same second disagree about device 4, in either order. -/
theorem equal_time_rosters_disagree :
    (VerifiedAppKeysIndex.default.ingestAll [(exampleAppKeysEvent 1 10 [3, 4], 10),
      (exampleAppKeysEvent 1 10 [3], 10), (exampleAppKeysEvent 1 9 [5], 10)]).membership
        (.point (.secret 1)) (.point (.secret 4)) = .ambiguous ∧
    (VerifiedAppKeysIndex.default.ingestAll [(exampleAppKeysEvent 1 9 [5], 10),
      (exampleAppKeysEvent 1 10 [3], 10), (exampleAppKeysEvent 1 10 [3, 4], 10)]).membership
        (.point (.secret 1)) (.point (.secret 4)) = .ambiguous := by
  have haccepted : ∀ event ∈ [exampleAppKeysEvent 1 10 [3, 4], exampleAppKeysEvent 1 10 [3],
      exampleAppKeysEvent 1 9 [5]], ∃ appKeys,
      appKeysAuthorizationCandidate event.pubkey event 10 = .ok appKeys := by
    have hchecked : ∀ event ∈ [exampleAppKeysEvent 1 10 [3, 4], exampleAppKeysEvent 1 10 [3],
        exampleAppKeysEvent 1 9 [5]],
        (appKeysAuthorizationCandidate event.pubkey event 10).toOption.isSome = true := by
      decide +kernel
    intro event hevent
    have hsome := hchecked event hevent
    cases hread : appKeysAuthorizationCandidate event.pubkey event 10 with
    | error e =>
        rw [hread] at hsome
        cases hsome
    | ok appKeys => exact ⟨appKeys, rfl⟩
  have hobserved : ∀ observed : List (Event KeyTerm × Nat),
      (∀ event ∈ observed, event.1 ∈ [exampleAppKeysEvent 1 10 [3, 4],
        exampleAppKeysEvent 1 10 [3], exampleAppKeysEvent 1 9 [5]] ∧ event.2 = 10) →
      ∀ event ∈ observed, ∃ appKeys,
        appKeysAuthorizationCandidate event.1.pubkey event.1 event.2 = .ok appKeys := by
    rintro observed hfrom ⟨event, now⟩ hevent
    obtain ⟨hmem, rfl⟩ := hfrom _ hevent
    exact haccepted event hmem
  obtain ⟨hspec, hsame, -⟩ := membership_converges evidenceLaws
    [(exampleAppKeysEvent 1 10 [3, 4], 10), (exampleAppKeysEvent 1 10 [3], 10),
      (exampleAppKeysEvent 1 9 [5], 10)] (hobserved _ (by simp))
  have hfirst : newestMembership (.point (.secret 1)) (.point (.secret 4))
      [exampleAppKeysEvent 1 10 [3, 4], exampleAppKeysEvent 1 10 [3],
        exampleAppKeysEvent 1 9 [5]] = .ambiguous := by
    decide +kernel
  refine ⟨(hspec _ _).trans hfirst, ?_⟩
  rw [hsame _ (hobserved _ (by simp)) fun event => (List.reverse_perm _).mem_iff.symm]
  exact (hspec _ _).trans hfirst

end Symbolic

end NostrDoubleRatchet
