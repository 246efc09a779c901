import Mathlib.Data.List.Sort
import NostrDoubleRatchet.TypeScript.AppKeysEvents

/-!
The roster that a registration is confirmed by, as `waitForRegistrationSnapshot` gathers it from
the events that arrive before its timer fires. The newest event leads, the one of the smallest id
among equally new ones, and the devices that all of these list are kept beside it.
-/

namespace NostrDoubleRatchet.TypeScript.AppKeysEvents.Registration

def APP_KEYS_ENCRYPTED_DEVICE_LABELS_FACT : String := "encrypted_device_labels"

def getAllDevices (appKeys : AppKeys) : List DeviceEntry := appKeys.devices.values

def identities (appKeys : AppKeys) : List String :=
  (getAllDevices appKeys).map DeviceEntry.identityPubkey

/-- With the owner's private key the labels are read too, which may fail. -/
def fromEvent (verifyEvent : VerifiedEvent → Bool)
    (loadEncryptedContent : Option (String → Except String Unit)) (event : VerifiedEvent) :
    Except String AppKeys := do
  let appKeys ← AppKeys.fromEvent verifyEvent event
  match loadEncryptedContent,
      truthy (firstTagValue event.tags APP_KEYS_ENCRYPTED_DEVICE_LABELS_FACT) with
  | some load, some encryptedLabels => do
      load encryptedLabels
      pure appKeys
  | _, _ => pure appKeys

/-- `texts.join(",")`. -/
def join (texts : List String) : String :=
  String.ofList ([','].intercalate (texts.map String.toList))

def membership (keys : AppKeys) : String :=
  join ((identities keys).insertionSort (· ≤ ·))

structure RegistrationSnapshot where
  event : VerifiedEvent
  appKeys : AppKeys
  ambiguous : Bool
  commonDevices : List DeviceEntry

/-- The callback on an event whose roster could be read. -/
def updateLatest (latest : Option RegistrationSnapshot) (event : VerifiedEvent)
    (appKeys : AppKeys) : Option RegistrationSnapshot :=
  match latest with
  | none => some ⟨event, appKeys, false, getAllDevices appKeys⟩
  | some current =>
      if current.event.createdAt < event.createdAt then
        some ⟨event, appKeys, false, getAllDevices appKeys⟩
      else if event.createdAt = current.event.createdAt then
        let ambiguous := current.ambiguous || membership current.appKeys ≠ membership appKeys
        let commonDevices := current.commonDevices.filter
          (fun device => device.identityPubkey ∈ identities appKeys)
        if event.id < current.event.id then some ⟨event, appKeys, ambiguous, commonDevices⟩
        else some ⟨current.event, current.appKeys, ambiguous, commonDevices⟩
      else some current

section

variable (verifyEvent : VerifiedEvent → Bool)
  (loadEncryptedContent : Option (String → Except String Unit)) (owner : String)

def onEvent (latest : Option RegistrationSnapshot) (event : VerifiedEvent) :
    Option RegistrationSnapshot :=
  if event.pubkey ≠ owner then latest
  else
    match fromEvent verifyEvent loadEncryptedContent event with
    | .error _ => latest
    | .ok appKeys => updateLatest latest event appKeys

/-- What the promise resolves to, by the events delivered before the timer. -/
def waitForRegistrationSnapshot (events : List VerifiedEvent) : Option RegistrationSnapshot :=
  events.foldl (onEvent verifyEvent loadEncryptedContent owner) none

/-- An event of the owner that carries this roster. -/
def Carries (event : VerifiedEvent) (appKeys : AppKeys) : Prop :=
  event.pubkey = owner ∧ fromEvent verifyEvent loadEncryptedContent event = .ok appKeys

end

/-! The devices of a roster. -/

/-- The keys of the map are the devices' own. -/
def Keyed (appKeys : AppKeys) : Prop :=
  ∀ entry ∈ appKeys.devices.entries, entry.1 = entry.2.identityPubkey

theorem keyed_new (devices : List DeviceEntry) : Keyed (AppKeys.new devices) := by
  have hfold : ∀ (devices : List DeviceEntry) (map : InsertionMap String DeviceEntry),
      (∀ entry ∈ map.entries, entry.1 = entry.2.identityPubkey) →
      ∀ entry ∈ (devices.foldl (fun map device => map.set device.identityPubkey device)
        map).entries, entry.1 = entry.2.identityPubkey := by
    intro devices
    induction devices with
    | nil =>
        intro map hmap
        exact hmap
    | cons device rest ih =>
        intro map hmap
        rw [List.foldl_cons]
        exact ih _ (InsertionMap.forall_entries_set hmap rfl)
  exact hfold devices InsertionMap.empty (by simp [InsertionMap.empty])

theorem keyed_fromEvent {verifyEvent : VerifiedEvent → Bool}
    {loadEncryptedContent : Option (String → Except String Unit)} {event : VerifiedEvent}
    {appKeys : AppKeys} (h : fromEvent verifyEvent loadEncryptedContent event = .ok appKeys) :
    Keyed appKeys := by
  unfold fromEvent at h
  obtain ⟨read, hread, hload⟩ := except_bind_eq_ok.mp h
  have heq : read = appKeys := by
    split at hload
    · obtain ⟨_, _, hpure⟩ := except_bind_eq_ok.mp hload
      exact Except.ok.inj hpure
    · exact Except.ok.inj hload
  rw [← heq]
  obtain ⟨_, _, h1⟩ := except_bind_eq_ok.mp hread
  obtain ⟨_, _, h2⟩ := except_bind_eq_ok.mp h1
  obtain ⟨_, _, h3⟩ := except_bind_eq_ok.mp h2
  obtain ⟨_, _, h4⟩ := except_bind_eq_ok.mp h3
  obtain ⟨_, _, h5⟩ := except_bind_eq_ok.mp h4
  obtain ⟨_, _, h6⟩ := except_bind_eq_ok.mp h5
  obtain ⟨_, _, h7⟩ := except_bind_eq_ok.mp h6
  obtain ⟨_, _, h8⟩ := except_bind_eq_ok.mp h7
  obtain ⟨_, _, h9⟩ := except_bind_eq_ok.mp h8
  obtain ⟨_, _, h10⟩ := except_bind_eq_ok.mp h9
  obtain ⟨_, _, hnew⟩ := except_bind_eq_ok.mp h10
  rw [← Except.ok.inj hnew]
  exact keyed_new _

theorem Keyed.nodup_identities {appKeys : AppKeys} (h : Keyed appKeys) :
    (identities appKeys).Nodup := by
  have hkeys : identities appKeys = appKeys.devices.keys := by
    unfold identities getAllDevices InsertionMap.values InsertionMap.keys
    rw [List.map_map]
    exact List.map_congr_left (fun entry hmem => (h entry hmem).symm)
  rw [hkeys]
  exact appKeys.devices.nodup

/-! The texts that are compared. -/

/-- Device keys are neither empty nor hold a comma. -/
def Canonical (appKeys : AppKeys) : Prop :=
  ∀ identity ∈ identities appKeys, identity ≠ "" ∧ ',' ∉ identity.toList

instance (appKeys : AppKeys) : Decidable (Canonical appKeys) :=
  inferInstanceAs (Decidable (∀ identity ∈ identities appKeys, _))

theorem splitOn_join {texts : List String} (hne : texts ≠ [])
    (h : ∀ text ∈ texts, ',' ∉ text.toList) :
    (join texts).toList.splitOn ',' = texts.map String.toList := by
  unfold join
  rw [String.toList_ofList]
  apply List.splitOn_intercalate
  · intro chars hmem
    obtain ⟨text, htext, rfl⟩ := List.mem_map.mp hmem
    exact h text htext
  · simpa using hne

theorem join_ne_empty {texts : List String} (hne : texts ≠ [])
    (h : ∀ text ∈ texts, text ≠ "" ∧ ',' ∉ text.toList) : join texts ≠ "" := by
  intro hempty
  have hsplit := splitOn_join hne (fun text hmem => (h text hmem).2)
  rw [hempty] at hsplit
  cases texts with
  | nil => exact hne rfl
  | cons text rest =>
      have hhead : text.toList = [] := by
        have hfirst := congrArg List.head? hsplit
        simpa using hfirst.symm
      exact (h text List.mem_cons_self).1 (String.toList_eq_nil_iff.mp hhead)

theorem join_inj {texts others : List String}
    (h : ∀ text ∈ texts, text ≠ "" ∧ ',' ∉ text.toList)
    (hothers : ∀ text ∈ others, text ≠ "" ∧ ',' ∉ text.toList)
    (heq : join texts = join others) : texts = others := by
  by_cases hne : texts = []
  · by_contra hdiff
    apply join_ne_empty (fun hnil => hdiff (hne.trans hnil.symm)) hothers
    rw [← heq, hne]
    rfl
  · by_cases hne' : others = []
    · exfalso
      apply join_ne_empty hne h
      rw [heq, hne']
      rfl
    · have hsplit := splitOn_join hne (fun text hmem => (h text hmem).2)
      rw [heq, splitOn_join hne' (fun text hmem => (hothers text hmem).2)] at hsplit
      exact (List.map_injective_iff.mpr (fun _ _ => String.toList_injective) hsplit).symm

/-- Rosters of the same devices. -/
def SameDevices (keys others : AppKeys) : Prop :=
  ∀ identity, identity ∈ identities keys ↔ identity ∈ identities others

theorem membership_eq_iff {keys others : AppKeys} (hkeys : Keyed keys) (hothers : Keyed others)
    (hcanonical : Canonical keys) (hcanonical' : Canonical others) :
    membership keys = membership others ↔ SameDevices keys others := by
  have hsorted : ∀ {keys : AppKeys}, Canonical keys →
      ∀ text ∈ (identities keys).insertionSort (· ≤ ·), text ≠ "" ∧ ',' ∉ text.toList := by
    intro keys hcanonical text hmem
    exact hcanonical text ((List.mem_insertionSort (· ≤ ·)).mp hmem)
  constructor
  · intro heq identity
    have hlists := join_inj (hsorted hcanonical) (hsorted hcanonical') heq
    rw [← List.mem_insertionSort (· ≤ ·), hlists, List.mem_insertionSort]
  · intro hsame
    have hperm : (identities keys).Perm (identities others) :=
      (List.perm_ext_iff_of_nodup hkeys.nodup_identities hothers.nodup_identities).mpr hsame
    have hsort : ((identities keys).insertionSort (· ≤ ·)).Perm
        ((identities others).insertionSort (· ≤ ·)) :=
      (List.perm_insertionSort _ _).trans (hperm.trans (List.perm_insertionSort _ _).symm)
    unfold membership
    rw [hsort.eq_of_sortedLE List.sortedLE_insertionSort List.sortedLE_insertionSort]

/-! What the running snapshot says of the events before it. -/

/-- The rosters that were read, each with its event. -/
abbrev Seen := List (VerifiedEvent × AppKeys)

/-- Two events of this time list different devices. -/
def Ambiguous (seen : Seen) (time : Nat) : Prop :=
  ∃ entry ∈ seen, ∃ other ∈ seen, entry.1.createdAt = time ∧ other.1.createdAt = time ∧
    ¬ SameDevices entry.2 other.2

/-- The snapshot describes the newest events, whatever order they came in. -/
structure Summarizes (seen : Seen) (snapshot : RegistrationSnapshot) : Prop where
  leader : (snapshot.event, snapshot.appKeys) ∈ seen
  newest : ∀ entry ∈ seen, entry.1.createdAt ≤ snapshot.event.createdAt
  smallest : ∀ entry ∈ seen, entry.1.createdAt = snapshot.event.createdAt →
    snapshot.event.id ≤ entry.1.id
  ambiguous_iff : snapshot.ambiguous = true ↔ Ambiguous seen snapshot.event.createdAt
  common : ∀ identity, identity ∈ snapshot.commonDevices.map DeviceEntry.identityPubkey ↔
    ∀ entry ∈ seen, entry.1.createdAt = snapshot.event.createdAt →
      identity ∈ identities entry.2

theorem SameDevices.rfl {keys : AppKeys} : SameDevices keys keys := fun _ => Iff.rfl

theorem SameDevices.symm {keys others : AppKeys} (h : SameDevices keys others) :
    SameDevices others keys := fun identity => (h identity).symm

theorem SameDevices.trans {keys others third : AppKeys} (h : SameDevices keys others)
    (h' : SameDevices others third) : SameDevices keys third :=
  fun identity => (h identity).trans (h' identity)

/-- It is enough to compare with one of them. -/
theorem ambiguous_iff_of_mem {seen : Seen} {leader : VerifiedEvent × AppKeys}
    (hleader : leader ∈ seen) :
    Ambiguous seen leader.1.createdAt ↔
      ∃ entry ∈ seen, entry.1.createdAt = leader.1.createdAt ∧
        ¬ SameDevices leader.2 entry.2 := by
  constructor
  · rintro ⟨entry, hentry, other, hother, htime, htime', hdiff⟩
    by_cases hsame : SameDevices leader.2 entry.2
    · refine ⟨other, hother, htime', ?_⟩
      intro hsame'
      exact hdiff (hsame.symm.trans hsame')
    · exact ⟨entry, hentry, htime, hsame⟩
  · rintro ⟨entry, hentry, htime, hdiff⟩
    exact ⟨leader, hleader, entry, hentry, rfl, htime, hdiff⟩

theorem Summarizes.of_mem_iff {seen others : Seen} {snapshot : RegistrationSnapshot}
    (hsame : ∀ entry, entry ∈ others ↔ entry ∈ seen) (h : Summarizes others snapshot) :
    Summarizes seen snapshot := by
  refine ⟨(hsame _).mp h.leader, ?_, ?_, ?_, ?_⟩
  · intro entry hmem
    exact h.newest entry ((hsame entry).mpr hmem)
  · intro entry hmem
    exact h.smallest entry ((hsame entry).mpr hmem)
  · rw [h.ambiguous_iff]
    simp only [Ambiguous, hsame]
  · intro identity
    rw [h.common]
    simp only [hsame]

/-- An event newer than all before it stands alone. -/
theorem summarizes_newer {seen : Seen} {event : VerifiedEvent} {appKeys : AppKeys}
    (h : ∀ entry ∈ seen, entry.1.createdAt < event.createdAt) :
    Summarizes (seen ++ [(event, appKeys)]) ⟨event, appKeys, false, getAllDevices appKeys⟩ := by
  have hsplit : ∀ entry ∈ seen ++ [(event, appKeys)], entry.1.createdAt = event.createdAt →
      entry = (event, appKeys) := by
    intro entry hmem heq
    obtain hold | hnew := List.mem_append.mp hmem
    · exact absurd heq (h entry hold).ne
    · exact List.mem_singleton.mp hnew
  refine ⟨by simp, ?_, ?_, ?_, ?_⟩
  · intro entry hmem
    obtain hold | hnew := List.mem_append.mp hmem
    · exact (h entry hold).le
    · rw [List.mem_singleton.mp hnew]
  · intro entry hmem heq
    rw [hsplit entry hmem heq]
  · constructor
    · intro hfalse
      cases hfalse
    · rintro ⟨entry, hmem, other, hother, heq, heq', hdiff⟩
      rw [hsplit entry hmem heq, hsplit other hother heq'] at hdiff
      exact absurd SameDevices.rfl hdiff
  · intro identity
    constructor
    · intro hlisted entry hmem heq
      rw [hsplit entry hmem heq]
      exact hlisted
    · intro hall
      exact hall (event, appKeys) (by simp) rfl

/-- An event older than the leader changes nothing. -/
theorem Summarizes.older {seen : Seen} {snapshot : RegistrationSnapshot}
    (h : Summarizes seen snapshot) {event : VerifiedEvent} {appKeys : AppKeys}
    (hold : event.createdAt < snapshot.event.createdAt) :
    Summarizes (seen ++ [(event, appKeys)]) snapshot := by
  have hsplit : ∀ entry ∈ seen ++ [(event, appKeys)],
      entry.1.createdAt = snapshot.event.createdAt → entry ∈ seen := by
    intro entry hmem heq
    obtain hseen | hnew := List.mem_append.mp hmem
    · exact hseen
    · rw [List.mem_singleton.mp hnew] at heq
      exact absurd heq hold.ne
  refine ⟨List.mem_append_left _ h.leader, ?_, ?_, ?_, ?_⟩
  · intro entry hmem
    obtain hseen | hnew := List.mem_append.mp hmem
    · exact h.newest entry hseen
    · rw [List.mem_singleton.mp hnew]
      exact hold.le
  · intro entry hmem heq
    exact h.smallest entry (hsplit entry hmem heq) heq
  · rw [h.ambiguous_iff]
    constructor
    · rintro ⟨entry, hmem, other, hother, hrest⟩
      exact ⟨entry, List.mem_append_left _ hmem, other, List.mem_append_left _ hother, hrest⟩
    · rintro ⟨entry, hmem, other, hother, heq, heq', hdiff⟩
      exact ⟨entry, hsplit entry hmem heq, other, hsplit other hother heq', heq, heq', hdiff⟩
  · intro identity
    rw [h.common]
    constructor
    · intro hall entry hmem heq
      exact hall entry (hsplit entry hmem heq) heq
    · intro hall entry hmem heq
      exact hall entry (List.mem_append_left _ hmem) heq

/-- An event as new as the leader is compared with it and cuts down the common devices, whichever
of the two leads afterwards. -/
theorem Summarizes.equal {seen : Seen} {snapshot : RegistrationSnapshot}
    (h : Summarizes seen snapshot) {event : VerifiedEvent} {appKeys : AppKeys}
    (htime : event.createdAt = snapshot.event.createdAt)
    (leader : VerifiedEvent × AppKeys) {ambiguous : Bool}
    (hleader : leader ∈ [(snapshot.event, snapshot.appKeys), (event, appKeys)])
    (hid : leader.1.id ≤ snapshot.event.id ∧ leader.1.id ≤ event.id)
    (hambiguous : ambiguous = true ↔
      snapshot.ambiguous = true ∨ ¬ SameDevices snapshot.appKeys appKeys) :
    Summarizes (seen ++ [(event, appKeys)])
      ⟨leader.1, leader.2, ambiguous,
        snapshot.commonDevices.filter
          (fun device => device.identityPubkey ∈ identities appKeys)⟩ := by
  have hleaderTime : leader.1.createdAt = snapshot.event.createdAt := by
    obtain rfl | rfl : leader = (snapshot.event, snapshot.appKeys) ∨ leader = (event, appKeys) := by
      simpa using hleader
    · rfl
    · exact htime
  refine ⟨?_, ?_, ?_, ?_, ?_⟩
  · obtain rfl | rfl : leader = (snapshot.event, snapshot.appKeys) ∨ leader = (event, appKeys) := by
      simpa using hleader
    · exact List.mem_append_left _ h.leader
    · simp
  · intro entry hmem
    dsimp only
    rw [hleaderTime]
    obtain hseen | hnew := List.mem_append.mp hmem
    · exact h.newest entry hseen
    · rw [List.mem_singleton.mp hnew]
      exact htime.le
  · intro entry hmem heq
    obtain hseen | hnew := List.mem_append.mp hmem
    · exact hid.1.trans (h.smallest entry hseen (heq.trans hleaderTime))
    · rw [List.mem_singleton.mp hnew]
      exact hid.2
  · dsimp only
    rw [hleaderTime, hambiguous, h.ambiguous_iff, ambiguous_iff_of_mem h.leader,
      ambiguous_iff_of_mem (List.mem_append_left _ h.leader)]
    constructor
    · rintro (⟨entry, hmem, hrest⟩ | hdiff)
      · exact ⟨entry, List.mem_append_left _ hmem, hrest⟩
      · exact ⟨(event, appKeys), by simp, htime, hdiff⟩
    · rintro ⟨entry, hmem, heq, hdiff⟩
      obtain hseen | hnew := List.mem_append.mp hmem
      · exact .inl ⟨entry, hseen, heq, hdiff⟩
      · rw [List.mem_singleton.mp hnew] at hdiff
        exact .inr hdiff
  · intro identity
    dsimp only
    rw [hleaderTime]
    have hfilter : identity ∈ (snapshot.commonDevices.filter
          (fun device => device.identityPubkey ∈ identities appKeys)).map
            DeviceEntry.identityPubkey ↔
        identity ∈ snapshot.commonDevices.map DeviceEntry.identityPubkey ∧
          identity ∈ identities appKeys := by
      simp only [List.mem_map, List.mem_filter, decide_eq_true_eq]
      constructor
      · rintro ⟨device, ⟨hmem, hlisted⟩, rfl⟩
        exact ⟨⟨device, hmem, rfl⟩, hlisted⟩
      · rintro ⟨⟨device, hmem, rfl⟩, hlisted⟩
        exact ⟨device, ⟨hmem, hlisted⟩, rfl⟩
    rw [hfilter, h.common]
    constructor
    · rintro ⟨hall, hlisted⟩ entry hmem heq
      obtain hseen | hnew := List.mem_append.mp hmem
      · exact hall entry hseen heq
      · rw [List.mem_singleton.mp hnew]
        exact hlisted
    · intro hall
      constructor
      · intro entry hmem heq
        exact hall entry (List.mem_append_left _ hmem) heq
      · exact hall (event, appKeys) (by simp) htime

/-- Every roster is one that `fromEvent` returns. -/
def Readable (seen : Seen) : Prop := ∀ entry ∈ seen, Keyed entry.2 ∧ Canonical entry.2

/-- What the callback keeps true. -/
def Describes (seen : Seen) : Option RegistrationSnapshot → Prop
  | none => seen = []
  | some snapshot => Summarizes seen snapshot

theorem describes_updateLatest {seen : Seen} {latest : Option RegistrationSnapshot}
    (h : Describes seen latest) (hseen : Readable seen) {event : VerifiedEvent}
    {appKeys : AppKeys} (hnew : Keyed appKeys ∧ Canonical appKeys) :
    Describes (seen ++ [(event, appKeys)]) (updateLatest latest event appKeys) := by
  cases latest with
  | none =>
      have hnil : seen = [] := h
      subst hnil
      exact summarizes_newer (fun entry hmem => absurd hmem List.not_mem_nil)
  | some current =>
      have hcurrent : Summarizes seen current := h
      obtain ⟨hkeyed, hcanonical⟩ := hseen _ hcurrent.leader
      unfold updateLatest
      dsimp only
      split
      · rename_i hlt
        exact summarizes_newer
          (fun entry hmem => (hcurrent.newest entry hmem).trans_lt hlt)
      · rename_i hnotNewer
        split
        · rename_i htime
          have hambiguous : (current.ambiguous ||
              decide (membership current.appKeys ≠ membership appKeys)) = true ↔
                current.ambiguous = true ∨ ¬ SameDevices current.appKeys appKeys := by
            rw [Bool.or_eq_true, decide_eq_true_eq, ne_eq,
              membership_eq_iff hkeyed hnew.1 hcanonical hnew.2]
          split
          · rename_i hid
            exact hcurrent.equal htime (event, appKeys) (by simp)
              ⟨hid.le, le_rfl⟩ hambiguous
          · rename_i hid
            exact hcurrent.equal htime (current.event, current.appKeys) (by simp)
              ⟨le_rfl, not_lt.mp hid⟩ hambiguous
        · rename_i hne
          exact hcurrent.older (by omega)

section

variable (verifyEvent : VerifiedEvent → Bool)
  (loadEncryptedContent : Option (String → Except String Unit)) (owner : String)

/-- The events that the callback does not ignore. -/
def accepted (events : List VerifiedEvent) : Seen :=
  events.filterMap (fun event =>
    if event.pubkey ≠ owner then none
    else (fromEvent verifyEvent loadEncryptedContent event).toOption.map (event, ·))

variable {verifyEvent loadEncryptedContent owner}

theorem mem_accepted {events : List VerifiedEvent} {event : VerifiedEvent} {appKeys : AppKeys} :
    (event, appKeys) ∈ accepted verifyEvent loadEncryptedContent owner events ↔
      event ∈ events ∧ Carries verifyEvent loadEncryptedContent owner event appKeys := by
  unfold accepted Carries
  rw [List.mem_filterMap]
  constructor
  · rintro ⟨delivered, hmem, heq⟩
    split at heq
    · cases heq
    · rename_i howner
      obtain ⟨read, hread, hpair⟩ := Option.map_eq_some_iff.mp heq
      cases hpair
      cases hresult : fromEvent verifyEvent loadEncryptedContent event with
      | error _ =>
          rw [hresult] at hread
          cases hread
      | ok keys =>
          rw [hresult] at hread
          cases hread
          exact ⟨hmem, not_not.mp howner, rfl⟩
  · rintro ⟨hmem, howner, hread⟩
    refine ⟨event, hmem, ?_⟩
    rw [if_neg (not_not.mpr howner), hread]
    rfl

theorem foldl_onEvent (events : List VerifiedEvent) (latest : Option RegistrationSnapshot) :
    events.foldl (onEvent verifyEvent loadEncryptedContent owner) latest =
      (accepted verifyEvent loadEncryptedContent owner events).foldl
        (fun latest entry => updateLatest latest entry.1 entry.2) latest := by
  induction events generalizing latest with
  | nil => rfl
  | cons event rest ih =>
      rw [List.foldl_cons, ih]
      unfold accepted onEvent
      rw [List.filterMap_cons]
      split
      · rfl
      · cases fromEvent verifyEvent loadEncryptedContent event with
        | error _ => rfl
        | ok appKeys => rfl

theorem describes_foldl {entries seen : Seen} {latest : Option RegistrationSnapshot}
    (h : Describes seen latest) (hall : Readable (seen ++ entries)) :
    Describes (seen ++ entries)
      (entries.foldl (fun latest entry => updateLatest latest entry.1 entry.2) latest) := by
  induction entries generalizing seen latest with
  | nil => simpa using h
  | cons entry rest ih =>
      have hseen : Readable seen := fun entry hmem => hall entry (List.mem_append_left _ hmem)
      have hentry := hall entry (List.mem_append_right _ List.mem_cons_self)
      rw [List.foldl_cons, List.append_cons]
      rw [List.append_cons] at hall
      exact ih (describes_updateLatest h hseen hentry) hall

theorem describes_waitForRegistrationSnapshot {events : List VerifiedEvent}
    (hkeys : ∀ event ∈ events, ∀ appKeys,
      Carries verifyEvent loadEncryptedContent owner event appKeys → Canonical appKeys) :
    Describes (accepted verifyEvent loadEncryptedContent owner events)
      (waitForRegistrationSnapshot verifyEvent loadEncryptedContent owner events) := by
  have hreadable : Readable ([] ++ accepted verifyEvent loadEncryptedContent owner events) := by
    rintro ⟨event, appKeys⟩ hmem
    obtain ⟨hevent, hcarries⟩ := mem_accepted.mp hmem
    exact ⟨keyed_fromEvent hcarries.2, hkeys event hevent appKeys hcarries⟩
  have hstart : Describes [] none := rfl
  unfold waitForRegistrationSnapshot
  rw [foldl_onEvent]
  exact describes_foldl hstart hreadable

variable (verifyEvent loadEncryptedContent owner)

/-- The snapshot is told by the newest events: the one of the smallest id leads, the flag says
that two of them list different devices, and the common devices are listed by all of them. -/
theorem registration_snapshot (events : List VerifiedEvent)
    (hids : ∀ event ∈ events, ∀ other ∈ events, event.id = other.id → event = other)
    (hkeys : ∀ event ∈ events, ∀ appKeys,
      Carries verifyEvent loadEncryptedContent owner event appKeys → Canonical appKeys) :
    (waitForRegistrationSnapshot verifyEvent loadEncryptedContent owner events = none ↔
      ∀ event ∈ events, ∀ appKeys,
        ¬ Carries verifyEvent loadEncryptedContent owner event appKeys) ∧
    ∀ snapshot,
      waitForRegistrationSnapshot verifyEvent loadEncryptedContent owner events = some snapshot →
      snapshot.event ∈ events ∧
      Carries verifyEvent loadEncryptedContent owner snapshot.event snapshot.appKeys ∧
      (∀ event ∈ events, ∀ appKeys,
        Carries verifyEvent loadEncryptedContent owner event appKeys →
        event.createdAt ≤ snapshot.event.createdAt ∧
          (event.createdAt = snapshot.event.createdAt → event ≠ snapshot.event →
            snapshot.event.id < event.id)) ∧
      (snapshot.ambiguous = true ↔ ∃ event ∈ events, ∃ other ∈ events, ∃ appKeys otherKeys,
        Carries verifyEvent loadEncryptedContent owner event appKeys ∧
        Carries verifyEvent loadEncryptedContent owner other otherKeys ∧
        event.createdAt = snapshot.event.createdAt ∧
        other.createdAt = snapshot.event.createdAt ∧ ¬ SameDevices appKeys otherKeys) ∧
      ∀ identity, identity ∈ snapshot.commonDevices.map DeviceEntry.identityPubkey ↔
        ∀ event ∈ events, ∀ appKeys,
          Carries verifyEvent loadEncryptedContent owner event appKeys →
          event.createdAt = snapshot.event.createdAt → identity ∈ identities appKeys := by
  have hdescribes := describes_waitForRegistrationSnapshot hkeys
  constructor
  · constructor
    · intro hnone event hevent appKeys hcarries
      rw [hnone] at hdescribes
      have hmem := mem_accepted.mpr ⟨hevent, hcarries⟩
      rw [show accepted verifyEvent loadEncryptedContent owner events = [] from hdescribes] at hmem
      exact List.not_mem_nil hmem
    · intro hall
      cases hresult : waitForRegistrationSnapshot verifyEvent loadEncryptedContent owner events with
      | none => rfl
      | some snapshot =>
          rw [hresult] at hdescribes
          have hsummary : Summarizes _ snapshot := hdescribes
          obtain ⟨hevent, hcarries⟩ := mem_accepted.mp hsummary.leader
          exact absurd hcarries (hall _ hevent _)
  · intro snapshot hresult
    rw [hresult] at hdescribes
    have hsummary : Summarizes _ snapshot := hdescribes
    obtain ⟨hleader, hcarries⟩ := mem_accepted.mp hsummary.leader
    refine ⟨hleader, hcarries, ?_, ?_, ?_⟩
    · intro event hevent appKeys hevent'
      have hmem := mem_accepted.mpr ⟨hevent, hevent'⟩
      refine ⟨hsummary.newest _ hmem, ?_⟩
      intro htime hne
      apply lt_of_le_of_ne (hsummary.smallest _ hmem htime)
      intro hid
      exact hne (hids _ hevent _ hleader hid.symm)
    · rw [hsummary.ambiguous_iff]
      constructor
      · rintro ⟨⟨event, appKeys⟩, hmem, ⟨other, otherKeys⟩, hmem', htime, htime', hdiff⟩
        obtain ⟨hevent, hread⟩ := mem_accepted.mp hmem
        obtain ⟨hother, hread'⟩ := mem_accepted.mp hmem'
        exact ⟨event, hevent, other, hother, appKeys, otherKeys, hread, hread', htime, htime',
          hdiff⟩
      · rintro ⟨event, hevent, other, hother, appKeys, otherKeys, hread, hread', hrest⟩
        exact ⟨(event, appKeys), mem_accepted.mpr ⟨hevent, hread⟩, (other, otherKeys),
          mem_accepted.mpr ⟨hother, hread'⟩, hrest⟩
    · intro identity
      rw [hsummary.common]
      constructor
      · intro hall event hevent appKeys hread
        exact hall (event, appKeys) (mem_accepted.mpr ⟨hevent, hread⟩)
      · rintro hall ⟨event, appKeys⟩ hmem
        obtain ⟨hevent, hread⟩ := mem_accepted.mp hmem
        exact hall event hevent appKeys hread

/-- Another order of the same events, some of them repeated, gives the same snapshot but for the
order of the common devices. -/
theorem snapshot_of_same_events {events others : List VerifiedEvent}
    (hsame : ∀ event, event ∈ events ↔ event ∈ others)
    (hids : ∀ event ∈ events, ∀ other ∈ events, event.id = other.id → event = other)
    (hkeys : ∀ event ∈ events, ∀ appKeys,
      Carries verifyEvent loadEncryptedContent owner event appKeys → Canonical appKeys)
    {snapshot : RegistrationSnapshot}
    (h : waitForRegistrationSnapshot verifyEvent loadEncryptedContent owner events =
      some snapshot) :
    ∃ commonDevices, (∀ identity, identity ∈ commonDevices.map DeviceEntry.identityPubkey ↔
        identity ∈ snapshot.commonDevices.map DeviceEntry.identityPubkey) ∧
      waitForRegistrationSnapshot verifyEvent loadEncryptedContent owner others =
        some ⟨snapshot.event, snapshot.appKeys, snapshot.ambiguous, commonDevices⟩ := by
  have hdescribes := describes_waitForRegistrationSnapshot hkeys
  have hdescribes' : Describes (accepted verifyEvent loadEncryptedContent owner others) _ :=
    describes_waitForRegistrationSnapshot
      (fun event hmem => hkeys event ((hsame event).mpr hmem))
  rw [h] at hdescribes
  have hsummary : Summarizes _ snapshot := hdescribes
  have hseen : ∀ entry, entry ∈ accepted verifyEvent loadEncryptedContent owner others ↔
      entry ∈ accepted verifyEvent loadEncryptedContent owner events := by
    rintro ⟨event, appKeys⟩
    rw [mem_accepted, mem_accepted, hsame]
  cases hresult : waitForRegistrationSnapshot verifyEvent loadEncryptedContent owner others with
  | none =>
      rw [hresult] at hdescribes'
      have hmem := (hseen _).mpr hsummary.leader
      rw [show accepted verifyEvent loadEncryptedContent owner others = [] from hdescribes']
        at hmem
      exact absurd hmem List.not_mem_nil
  | some found =>
      rw [hresult] at hdescribes'
      have hfound : Summarizes _ found := Summarizes.of_mem_iff hseen hdescribes'
      have htime : found.event.createdAt = snapshot.event.createdAt :=
        Nat.le_antisymm (hsummary.newest _ hfound.leader) (hfound.newest _ hsummary.leader)
      have hid : found.event.id = snapshot.event.id :=
        le_antisymm (hfound.smallest _ hsummary.leader htime.symm)
          (hsummary.smallest _ hfound.leader htime)
      obtain ⟨hmem, hcarries⟩ := mem_accepted.mp hsummary.leader
      obtain ⟨hmem', hcarries'⟩ := mem_accepted.mp hfound.leader
      have hevent : found.event = snapshot.event := hids _ hmem' _ hmem hid
      have hkeysEq : found.appKeys = snapshot.appKeys := by
        have hread := hcarries'.2
        rw [hevent, hcarries.2] at hread
        exact (Except.ok.inj hread).symm
      have hambiguous : found.ambiguous = snapshot.ambiguous := by
        rw [Bool.eq_iff_iff, hfound.ambiguous_iff, hsummary.ambiguous_iff, htime]
      refine ⟨found.commonDevices, ?_, ?_⟩
      · intro identity
        rw [hfound.common, hsummary.common, htime]
      · rw [← hevent, ← hkeysEq, ← hambiguous]

end

/-! Two rosters of one time that list different devices. -/

namespace TwoRosters

def owner : String := "0000000000000000000000000000000000000000000000000000000000000000"

def roster (id : String) (devices : List String) : VerifiedEvent :=
  ⟨id, "signed", owner, APP_KEYS_SNAPSHOT_KIND, 9,
    [["type", APP_KEYS_FACT_TYPE], ["schema", "1"], [APP_KEYS_OWNER_PUBKEY_FACT, owner],
      ["i", "123e4567-e89b-42d3-a456-426614174000", "subject"]] ++
        devices.map (fun device => ["device", device, "5"]), ""⟩

def rosters : List VerifiedEvent := [roster "b" ["phone", "tablet"], roster "a" ["phone"]]

theorem canonical (event : VerifiedEvent) (hmem : event ∈ rosters) (appKeys : AppKeys)
    (h : Carries (fun _ => true) none owner event appKeys) : Canonical appKeys := by
  have hall : ∀ event ∈ rosters, (fromEvent (fun _ => true) none event).toOption.all
      (fun appKeys => decide (Canonical appKeys)) = true := by
    decide +kernel
  have hread := hall event hmem
  rw [h.2] at hread
  exact of_decide_eq_true hread

theorem smaller_id_leads_ambiguously :
    (waitForRegistrationSnapshot (fun _ => true) none owner rosters).map
        (fun snapshot => (snapshot.event.id, snapshot.ambiguous)) = some ("a", true) ∧
      ∀ snapshot, waitForRegistrationSnapshot (fun _ => true) none owner rosters =
        some snapshot → snapshot.event ∈ rosters := by
  refine ⟨by decide +kernel, fun snapshot hresult => ?_⟩
  exact ((registration_snapshot (fun _ => true) none owner rosters (by decide +kernel)
    canonical).2 snapshot hresult).1

end TwoRosters

end NostrDoubleRatchet.TypeScript.AppKeysEvents.Registration
