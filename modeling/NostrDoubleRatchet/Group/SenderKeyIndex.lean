import NostrDoubleRatchet.Lib.InverseIndex
import NostrDoubleRatchet.Group.Authority

/-!
The index of sender-event keys. Along every run whose new sender-event keys are unknown when
they are made, the index and the sender-key records are inverse to each other, a restart
gives the same manager, and a key passes from one sender to another only from a record of
the local owner that has no secret.
-/

namespace NostrDoubleRatchet

variable {K T : Type} [LinearOrder K]

/-- States and distributions are stored under their key ids, and the latest chain is there. -/
structure SenderKeyRecord.Keyed (record : SenderKeyRecord K) : Prop where
  states : ∀ keyId state, record.states.get? keyId = some state → state.keyId = keyId
  history : ∀ keyId distribution, record.distributionHistory.get? keyId = some distribution →
    distribution.keyId = keyId
  latest : ∀ keyId, record.latestKeyId = some keyId → (record.states.get? keyId).isSome

namespace SenderKeyRecord

theorem keyed_fresh (id : SenderKeyRecordId K) (pubkey : SenderEventPubkey K)
    (secret : Option K) : (fresh id pubkey secret none).Keyed :=
  ⟨(fun _ _ h => by cases h), (fun _ _ h => by cases h), (fun _ h => by cases h)⟩

omit [LinearOrder K] in
private theorem isSome_insert {states : SortedMap Nat (SenderKeyState K)} {keyId keyId' : Nat}
    {state : SenderKeyState K} (h : (states.get? keyId').isSome) :
    ((states.insert keyId state).get? keyId').isSome := by
  rw [SortedMap.get?_insert]
  split
  · rfl
  · exact h

theorem Keyed.startChain {record : SenderKeyRecord K} (h : record.Keyed)
    (distribution : SenderKeyDistribution K) :
    { record.startChain distribution.keyId distribution.chainKey with
      distributionHistory :=
        record.distributionHistory.insert distribution.keyId distribution }.Keyed := by
  refine ⟨?_, ?_, ?_⟩
  · exact SortedMap.forall_get?_insert h.states rfl
  · exact SortedMap.forall_get?_insert h.history rfl
  · intro keyId hlatest
    cases hlatest
    exact Option.isSome_of_eq_some (SortedMap.get?_insert_self _ _ _)

theorem Keyed.insertState {record : SenderKeyRecord K} (h : record.Keyed) {keyId : Nat}
    {state : SenderKeyState K} (hstate : state.keyId = keyId) :
    { record with states := record.states.insert keyId state }.Keyed :=
  ⟨SortedMap.forall_get?_insert h.states hstate, h.history,
    fun keyId' hlatest => isSome_insert (h.latest keyId' hlatest)⟩

theorem Keyed.observe {record : SenderKeyRecord K} (h : record.Keyed)
    (distribution : SenderKeyDistribution K) : (record.observe distribution).Keyed := by
  refine ⟨?_, ?_, ?_⟩
  · intro keyId state hstate
    unfold SenderKeyRecord.observe at hstate
    dsimp only at hstate
    split at hstate
    · exact h.states keyId state hstate
    · exact SortedMap.forall_get?_insert (P := fun keyId state => state.keyId = keyId)
        h.states rfl keyId state hstate
  · intro keyId found hfound
    unfold SenderKeyRecord.observe at hfound
    dsimp only at hfound
    split at hfound
    · exact h.history keyId found hfound
    · exact SortedMap.forall_get?_insert (P := fun keyId found => found.keyId = keyId)
        h.history rfl keyId found hfound
  · intro keyId hlatest
    cases hlatest
    unfold SenderKeyRecord.observe
    dsimp only
    split
    · assumption
    · exact Option.isSome_of_eq_some (SortedMap.get?_insert_self _ _ _)

end SenderKeyRecord

namespace GroupManager

/-- The index is exact, and every record is stored under its id and is keyed. -/
structure KeysValid (manager : GroupManager K) : Prop where
  index : Indexes SenderKeyRecord.senderEventPubkey manager.senderEventIndex manager.senderKeys
  id : ∀ id record, manager.senderKeys.get? id = some record → record.id = id
  keyed : ∀ id record, manager.senderKeys.get? id = some record → record.Keyed

theorem keysValid_new (owner : OwnerPubkey K) : (GroupManager.new owner).KeysValid :=
  ⟨Indexes.empty, (fun _ _ h => by cases h), (fun _ _ h => by cases h)⟩

namespace KeysValid

variable {manager : GroupManager K}

theorem setGroup (h : manager.KeysValid) (groupId : String) (record : GroupRecord K) :
    (manager.setGroup groupId record).KeysValid :=
  ⟨h.index, h.id, h.keyed⟩

theorem setSenderKey (h : manager.KeysValid) {id : SenderKeyRecordId K}
    {old record : SenderKeyRecord K} (hold : manager.senderKeys.get? id = some old)
    (hid : record.id = old.id) (hpubkey : record.senderEventPubkey = old.senderEventPubkey)
    (hkeyed : record.Keyed) : (manager.setSenderKey id record).KeysValid :=
  ⟨h.index.replace hold hpubkey, SortedMap.forall_get?_insert h.id (hid.trans (h.id id old hold)),
    SortedMap.forall_get?_insert h.keyed hkeyed⟩

theorem addSenderKey (h : manager.KeysValid) {id : SenderKeyRecordId K}
    {record : SenderKeyRecord K} (hnone : manager.senderKeys.get? id = none)
    (hfree : manager.senderEventIndex.get? record.senderEventPubkey = none)
    (hid : record.id = id) (hkeyed : record.Keyed) : (manager.addSenderKey id record).KeysValid :=
  ⟨h.index.insert hnone hfree, SortedMap.forall_get?_insert h.id hid,
    SortedMap.forall_get?_insert h.keyed hkeyed⟩

theorem modifySenderKey (h : manager.KeysValid) (id : SenderKeyRecordId K)
    {f : SenderKeyRecord K → SenderKeyRecord K} (hid : ∀ record, (f record).id = record.id)
    (hpubkey : ∀ record, (f record).senderEventPubkey = record.senderEventPubkey)
    (hkeyed : ∀ record, record.Keyed → (f record).Keyed) :
    (manager.modifySenderKey id f).KeysValid := by
  unfold GroupManager.modifySenderKey
  split
  · exact h
  · rename_i record hrecord
    exact h.setSenderKey hrecord (hid record) (hpubkey record) (hkeyed record (h.keyed id _ hrecord))

theorem markSenderKeyDistributionRecipients (h : manager.KeysValid) (groupId : String)
    (device : DevicePubkey K) (keyId : Nat) (recipients : List (OwnerPubkey K)) :
    (manager.markSenderKeyDistributionRecipients groupId device keyId recipients).KeysValid := by
  unfold GroupManager.markSenderKeyDistributionRecipients
  split
  · exact h
  · exact h.modifySenderKey _ (fun _ => rfl) (fun _ => rfl)
      (fun record hrecord => ⟨hrecord.states, hrecord.history, hrecord.latest⟩)

theorem recordSenderKeyRepairSnapshot (h : manager.KeysValid) (groupId : String)
    (device : DevicePubkey K) (distribution : SenderKeyDistribution K)
    (recipients : List (OwnerPubkey K)) :
    (manager.recordSenderKeyRepairSnapshot groupId device distribution recipients).KeysValid := by
  have hrecorded : ∀ record : SenderKeyRecord K,
      (record.recordRepairSnapshot distribution recipients).id = record.id ∧
      (record.recordRepairSnapshot distribution recipients).senderEventPubkey =
        record.senderEventPubkey ∧
      (record.Keyed → (record.recordRepairSnapshot distribution recipients).Keyed) := by
    intro record
    unfold SenderKeyRecord.recordRepairSnapshot
    dsimp only
    split
    · exact ⟨rfl, rfl, fun hrecord => hrecord⟩
    · exact ⟨rfl, rfl, fun hrecord => ⟨hrecord.states, hrecord.history, hrecord.latest⟩⟩
  unfold GroupManager.recordSenderKeyRepairSnapshot
  split
  · exact h
  · exact h.modifySenderKey _ (fun record => (hrecorded record).1)
      (fun record => (hrecorded record).2.1) (fun record => (hrecorded record).2.2)

theorem applySenderKeyReceivePlan (h : manager.KeysValid)
    {plan : GroupSenderKeyReceivePlan K T} {result : GroupSenderKeyHandleResult K T}
    {next : GroupManager K} (happly : manager.applySenderKeyReceivePlan plan = .ok (result, next)) :
    next.KeysValid ∧ next.senderEventIndex = manager.senderEventIndex := by
  obtain rfl | ⟨mutation, record, -, hrecord, -, -, rfl⟩ := applySenderKeyReceivePlan_cases happly
  · exact ⟨h, rfl⟩
  · exact ⟨h.setSenderKey hrecord rfl rfl ((h.keyed _ _ hrecord).insertState rfl), rfl⟩

end KeysValid

/-! Distributions of other senders. -/

/-- When a distribution is stored, its key was free, led to its sender already, or led to
a record that gave way. -/
theorem resolveDuplicate_cases {manager resolved : GroupManager K} {id : SenderKeyRecordId K}
    {distribution : SenderKeyDistribution K}
    (h : manager.resolveDuplicate id distribution = some resolved) :
    (resolved = manager ∧ ∀ found,
      manager.senderEventIndex.get? distribution.senderEventPubkey = some found → found = id) ∨
    ∃ existingId, existingId ≠ id ∧
      manager.senderEventIndex.get? distribution.senderEventPubkey = some existingId ∧
      (∀ existing, manager.senderKeys.get? existingId = some existing →
        preferNewDuplicateSenderKey manager.localOwnerPubkey existing
          (SenderKeyRecord.fresh id distribution.senderEventPubkey none
            (some distribution.keyId)) = true) ∧
      resolved = { manager with senderKeys := manager.senderKeys.erase existingId } := by
  unfold resolveDuplicate at h
  split at h
  · rename_i hnone
    cases h
    refine Or.inl ⟨rfl, ?_⟩
    intro found hfound
    rw [hfound] at hnone
    by_contra hne
    rw [Option.filter_some, if_pos (decide_eq_true hne)] at hnone
    cases hnone
  · rename_i existingId hexisting
    obtain ⟨hindex, hne⟩ := Option.filter_eq_some_iff.mp hexisting
    dsimp only at h
    split at h
    · rename_i hprefer
      cases h
      refine Or.inr ⟨existingId, of_decide_eq_true hne, hindex, ?_, rfl⟩
      intro existing hrecord
      rw [hrecord] at hprefer
      exact hprefer
    · cases h

/-- The record under an id that a distribution finds or makes. -/
theorem storeDistribution_record {manager : GroupManager K}
    (hid : ∀ id record, manager.senderKeys.get? id = some record → record.id = id)
    (hkeyed : ∀ id record, manager.senderKeys.get? id = some record → record.Keyed)
    (id : SenderKeyRecordId K) (distribution : SenderKeyDistribution K) :
    (((manager.senderKeys.get? id).getD
      (SenderKeyRecord.fresh id distribution.senderEventPubkey none none)).observe
        distribution).id = id ∧
    (((manager.senderKeys.get? id).getD
      (SenderKeyRecord.fresh id distribution.senderEventPubkey none none)).observe
        distribution).Keyed := by
  cases hrecord : manager.senderKeys.get? id with
  | none => exact ⟨rfl, (SenderKeyRecord.keyed_fresh id _ none).observe distribution⟩
  | some record => exact ⟨hid id record hrecord, (hkeyed id record hrecord).observe distribution⟩

theorem KeysValid.storeDistribution {manager resolved : GroupManager K}
    (h : manager.KeysValid) {id : SenderKeyRecordId K} {distribution : SenderKeyDistribution K}
    (hresolved : manager.resolveDuplicate id distribution = some resolved) :
    (resolved.storeDistribution id distribution).KeysValid := by
  have hrest : ∀ (id' : SenderKeyRecordId K) (record : SenderKeyRecord K),
      resolved.senderKeys.get? id' = some record → record.id = id' ∧ record.Keyed := by
    obtain ⟨rfl, -⟩ | ⟨existingId, -, -, -, rfl⟩ := resolveDuplicate_cases hresolved
    · exact fun id' record hrecord => ⟨h.id id' record hrecord, h.keyed id' record hrecord⟩
    · exact SortedMap.forall_get?_erase fun id' record hrecord =>
        ⟨h.id id' record hrecord, h.keyed id' record hrecord⟩
  obtain ⟨hid, hkeyed⟩ := storeDistribution_record (fun id' record hr => (hrest id' record hr).1)
    (fun id' record hr => (hrest id' record hr).2) id distribution
  have hsome : ∀ old, resolved.senderKeys.get? id = some old → old.senderEventPubkey =
      ((resolved.senderKeys.get? id).getD
        (SenderKeyRecord.fresh id distribution.senderEventPubkey none none)).senderEventPubkey := by
    intro old hold
    rw [hold]
    rfl
  have hnone : resolved.senderKeys.get? id = none →
      ((resolved.senderKeys.get? id).getD
        (SenderKeyRecord.fresh id distribution.senderEventPubkey none none)).senderEventPubkey =
        distribution.senderEventPubkey := by
    intro hold
    rw [hold]
    rfl
  refine ⟨?_, SortedMap.forall_get?_insert (fun id' record hr => (hrest id' record hr).1) hid,
    SortedMap.forall_get?_insert (fun id' record hr => (hrest id' record hr).2) hkeyed⟩
  obtain ⟨rfl, hfree⟩ | ⟨existingId, -, hindex, -, rfl⟩ := resolveDuplicate_cases hresolved
  · exact h.index.assign (b := (((resolved.senderKeys.get? id).getD (SenderKeyRecord.fresh id
      distribution.senderEventPubkey none none)).observe distribution)) hfree hsome hnone
  · obtain ⟨gone, hgone, hpubkey⟩ := h.index.stored _ _ hindex
    exact h.index.takeOver (b := ((((manager.senderKeys.erase existingId).get? id).getD
      (SenderKeyRecord.fresh id distribution.senderEventPubkey none none)).observe distribution))
      hgone hpubkey hsome hnone

end GroupManager

/-! Local operations. -/

/-- The sender-event keys that were generated. -/
def createdKeys (log : List (GroupLogEntry K T)) : List (SenderEventPubkey K) :=
  log.filterMap fun
    | .created _ pubkey => some pubkey
    | _ => none

omit [LinearOrder K] in
theorem createdKeys_append (log entries : List (GroupLogEntry K T)) :
    createdKeys (log ++ entries) = createdKeys log ++ createdKeys entries :=
  List.filterMap_append

omit [LinearOrder K] in
private theorem createdKeys_addressed (owners : List (OwnerPubkey K))
    (command : GroupPairwiseCommand K T) :
    createdKeys (owners.map (GroupLogEntry.addressed · command)) = [] := by
  unfold createdKeys
  rw [List.filterMap_map, List.filterMap_eq_nil_iff]
  intro owner _
  rfl

/-- An effect makes a new record, or it keeps the index and the validity of the records. -/
theorem GroupEffect.keys_cases {owner : OwnerPubkey K} {device : DevicePubkey K}
    {trail next : GroupTrail K T} (h : GroupEffect owner device trail next) :
    (∃ entries, next.log = trail.log ++ entries ∧ createdKeys entries = [] ∧
      next.manager.senderEventIndex = trail.manager.senderEventIndex ∧
      (trail.manager.KeysValid → next.manager.KeysValid)) ∨
    ∃ id pubkey secret, trail.manager.senderKeys.get? id = none ∧
      next = {
        manager := trail.manager.addSenderKey id (SenderKeyRecord.fresh id pubkey secret none)
        log := trail.log ++ [.created id pubkey] } := by
  have hmodified : ∀ (manager : GroupManager K) (id : SenderKeyRecordId K)
      (f : SenderKeyRecord K → SenderKeyRecord K),
      (manager.modifySenderKey id f).senderEventIndex = manager.senderEventIndex := by
    intro manager id f
    unfold GroupManager.modifySenderKey
    split <;> rfl
  have hrecorded : ∀ (manager : GroupManager K) (groupId : String)
      (distribution : SenderKeyDistribution K) (recipients : List (OwnerPubkey K)),
      (manager.recordSenderKeyRepairSnapshot groupId device distribution
        recipients).senderEventIndex = manager.senderEventIndex := by
    intro manager groupId distribution recipients
    unfold GroupManager.recordSenderKeyRepairSnapshot
    split
    · rfl
    · exact hmodified _ _ _
  have hmarked : ∀ (manager : GroupManager K) (groupId : String) (keyId : Nat)
      (recipients : List (OwnerPubkey K)),
      (manager.markSenderKeyDistributionRecipients groupId device keyId
        recipients).senderEventIndex = manager.senderEventIndex := by
    intro manager groupId keyId recipients
    unfold GroupManager.markSenderKeyDistributionRecipients
    split
    · rfl
    · exact hmodified _ _ _
  cases h with
  | announced owners command hcommand =>
      exact Or.inl ⟨_, rfl, createdKeys_addressed owners command, rfl, fun hvalid => hvalid⟩
  | shared command =>
      exact Or.inl ⟨_, rfl, createdKeys_addressed [owner] command, rfl, fun hvalid => hvalid⟩
  | created groupId pubkey secret habsent =>
      exact Or.inr ⟨_, pubkey, some secret, habsent, rfl⟩
  | started groupId record distribution hrecord =>
      exact Or.inl ⟨_, rfl, rfl, rfl, fun hvalid => hvalid.setSenderKey hrecord rfl rfl
        ((hvalid.keyed _ _ hrecord).startChain distribution)⟩
  | distributed recipients distribution hcurrent =>
      refine Or.inl ⟨_, rfl, createdKeys_addressed recipients _, ?_, ?_⟩
      · exact (hmarked _ _ _ _).trans (hrecorded _ _ _ _)
      · intro hvalid
        exact (hvalid.recordSenderKeyRepairSnapshot _ _ _ _).markSenderKeyDistributionRecipients
          _ _ _ _
  | remembered distribution =>
      refine Or.inl ⟨[], (List.append_nil _).symm, rfl, hrecorded _ _ _ _, ?_⟩
      intro hvalid
      exact hvalid.recordSenderKeyRepairSnapshot distribution.groupId device distribution
        [trail.manager.localOwnerPubkey]
  | repaired requester id record snapshot howner hrecord hsecret hsnapshot hrecipient =>
      exact Or.inl ⟨_, rfl, createdKeys_addressed [requester] _, rfl, fun hvalid => hvalid⟩
  | emitted groupId record keyId state advanced hrecord hlatest hstate hnext hiteration =>
      refine Or.inl ⟨[], (List.append_nil _).symm, rfl, rfl, ?_⟩
      intro hvalid
      exact hvalid.setSenderKey hrecord rfl rfl ((hvalid.keyed _ _ hrecord).insertState
        (hnext.trans ((hvalid.keyed _ _ hrecord).states keyId state hstate)))

/-- The keys generated between two trails were unknown and are distinct. -/
structure FreshKeys (start : GroupTrail K T) (entries : List (GroupLogEntry K T)) : Prop where
  nodup : (createdKeys entries).Nodup
  unknown : ∀ pubkey ∈ createdKeys entries, start.manager.senderEventIndex.get? pubkey = none

/-- What effects since `start` have done: with fresh keys the records stay valid and the
index has only grown by the new keys. -/
structure SinceStart (start : GroupTrail K T) (entries : List (GroupLogEntry K T))
    (manager : GroupManager K) : Prop where
  valid : manager.KeysValid
  kept : ∀ pubkey id, start.manager.senderEventIndex.get? pubkey = some id →
    manager.senderEventIndex.get? pubkey = some id
  added : ∀ pubkey id, manager.senderEventIndex.get? pubkey = some id →
    start.manager.senderEventIndex.get? pubkey = some id ∨ pubkey ∈ createdKeys entries

theorem GroupEffect.sinceStart {owner : OwnerPubkey K} {device : DevicePubkey K}
    {start trail next : GroupTrail K T} (h : GroupEffect owner device trail next)
    (htrail : ∃ entries, trail.log = start.log ++ entries ∧
      (FreshKeys start entries → SinceStart start entries trail.manager)) :
    ∃ entries, next.log = start.log ++ entries ∧
      (FreshKeys start entries → SinceStart start entries next.manager) := by
  obtain ⟨entries, hlog, hsince⟩ := htrail
  obtain ⟨more, hmore, hnone, hindex, hvalid⟩ | ⟨id, pubkey, secret, habsent, rfl⟩ := h.keys_cases
  · refine ⟨entries ++ more, by rw [hmore, hlog, List.append_assoc], ?_⟩
    intro hfresh
    have hkeys : createdKeys (entries ++ more) = createdKeys entries := by
      rw [createdKeys_append, hnone, List.append_nil]
    obtain ⟨hnodup, hunknown⟩ := hfresh
    rw [hkeys] at hnodup hunknown
    have hbefore := hsince ⟨hnodup, hunknown⟩
    refine ⟨hvalid hbefore.valid, ?_, ?_⟩
    · rw [hindex]
      exact hbefore.kept
    · rw [hindex, hkeys]
      exact hbefore.added
  · refine ⟨entries ++ [.created id pubkey], by rw [hlog, List.append_assoc], ?_⟩
    intro hfresh
    have hkeys : createdKeys (entries ++ [GroupLogEntry.created id pubkey]) =
        createdKeys entries ++ [pubkey] := createdKeys_append _ _
    obtain ⟨hnodup, hunknown⟩ := hfresh
    rw [hkeys] at hnodup hunknown
    have hbefore := hsince ⟨(List.nodup_append.mp hnodup).1,
      fun pubkey hmem => hunknown pubkey (List.mem_append_left _ hmem)⟩
    have hfree : trail.manager.senderEventIndex.get? pubkey = none := by
      by_contra hne
      obtain ⟨found, hfound⟩ := Option.ne_none_iff_exists'.mp hne
      obtain hstart | hcreated := hbefore.added pubkey found hfound
      · rw [hunknown pubkey (List.mem_append_right _ List.mem_cons_self)] at hstart
        cases hstart
      · exact (List.disjoint_of_nodup_append hnodup) hcreated List.mem_cons_self
    refine ⟨hbefore.valid.addSenderKey habsent hfree rfl (SenderKeyRecord.keyed_fresh _ _ _),
      ?_, ?_⟩
    · intro known knownId hknown
      have hold := hbefore.kept known knownId hknown
      change (trail.manager.senderEventIndex.insert pubkey id).get? known = _
      rw [SortedMap.get?_insert, if_neg]
      · exact hold
      · rintro rfl
        rw [hfree] at hold
        cases hold
    · intro found foundId hfound
      change (trail.manager.senderEventIndex.insert pubkey id).get? found = _ at hfound
      rw [SortedMap.get?_insert] at hfound
      rw [hkeys]
      split at hfound
      · subst found
        exact Or.inr (List.mem_append_right _ List.mem_cons_self)
      · obtain hstart | hcreated := hbefore.added found foundId hfound
        · exact Or.inl hstart
        · exact Or.inr (List.mem_append_left _ hcreated)

/-! A restart. -/

omit [LinearOrder K] in
private theorem statesFromSnapshot_entries (entries stored : List (Nat × SenderKeyState K))
    (hkeys : ((stored ++ entries).map Prod.fst).Nodup)
    (hentries : ∀ entry ∈ entries, entry.2.keyId = entry.1) :
    SenderKeyRecord.statesFromSnapshot (entries.map Prod.snd) (SortedMap.ofList stored) =
      .ok (SortedMap.ofList (stored ++ entries)) := by
  induction entries generalizing stored with
  | nil => rw [List.append_nil]; rfl
  | cons entry rest ih =>
      have hid := hentries entry List.mem_cons_self
      have habsent : ¬ (SortedMap.ofList stored).contains entry.2.keyId = true := by
        rw [hid, SortedMap.contains, Option.isSome_iff_exists]
        rintro ⟨value, hvalue⟩
        rw [List.map_append, List.map_cons] at hkeys
        exact (List.disjoint_of_nodup_append hkeys)
          (List.mem_map_of_mem (SortedMap.mem_of_get?_ofList hvalue)) List.mem_cons_self
      have hstep : (SortedMap.ofList stored).insert entry.2.keyId entry.2 =
          SortedMap.ofList (stored ++ [entry]) := by
        rw [hid, SortedMap.ofList, SortedMap.ofList, List.foldl_append]
        rfl
      rw [List.map_cons, SenderKeyRecord.statesFromSnapshot, if_neg habsent, hstep,
        ih (stored ++ [entry]) (by simpa using hkeys)
          (fun e he => hentries e (List.mem_cons_of_mem _ he)), List.append_assoc]
      rfl

namespace SenderKeyRecord

/-- A record is read back from its own snapshot. -/
theorem fromSnapshot_snapshot {record : SenderKeyRecord K} (h : record.Keyed) :
    fromSnapshot record.snapshot = .ok record := by
  have hstates : statesFromSnapshot record.states.values SortedMap.empty = .ok record.states := by
    have hread := statesFromSnapshot_entries record.states.entries [] record.states.nodup_keys
      (fun entry hmem => h.states _ _ (SortedMap.mem_entries.mp hmem))
    rw [List.nil_append, GroupManager.ofList_entries] at hread
    exact hread
  have hlatest : record.latestKeyId.all record.states.contains = true := by
    cases hkey : record.latestKeyId with
    | none => rfl
    | some keyId => exact h.latest keyId hkey
  have hhistory : SortedMap.ofList (record.distributionHistory.values.map
      (fun distribution => (distribution.keyId, distribution))) = record.distributionHistory := by
    have hentries : record.distributionHistory.values.map
        (fun distribution => (distribution.keyId, distribution)) =
          record.distributionHistory.entries := by
      rw [SortedMap.values, List.map_map]
      conv_rhs => rw [← List.map_id record.distributionHistory.entries]
      apply List.map_congr_left
      rintro ⟨keyId, distribution⟩ hmem
      change (distribution.keyId, distribution) = (keyId, distribution)
      rw [h.history _ _ (SortedMap.mem_entries.mp hmem)]
    rw [hentries, GroupManager.ofList_entries]
  have hdistributed : SortedMap.ofList ((record.distributedTo.entries.map
      (fun entry => (⟨entry.1, entry.2.toList⟩ :
        GroupSenderKeyDistributionRecipientsSnapshot K))).map
      (fun entry => (entry.keyId, SortedSet.ofList entry.recipients))) = record.distributedTo := by
    have hentries : (record.distributedTo.entries.map
        (fun entry => (⟨entry.1, entry.2.toList⟩ :
          GroupSenderKeyDistributionRecipientsSnapshot K))).map
        (fun entry => (entry.keyId, SortedSet.ofList entry.recipients)) =
          record.distributedTo.entries := by
      rw [List.map_map]
      conv_rhs => rw [← List.map_id record.distributedTo.entries]
      apply List.map_congr_left
      rintro ⟨keyId, owners⟩ -
      change (keyId, SortedSet.ofList owners.toList) = (keyId, owners)
      rw [SortedSet.ofList_toList]
    rw [hentries, GroupManager.ofList_entries]
  unfold fromSnapshot snapshot
  dsimp only
  rw [hstates, hhistory, hdistributed]
  change (ensure (record.latestKeyId.all record.states.contains) _ >>= fun _ => _) = _
  rw [hlatest]
  rfl

end SenderKeyRecord

namespace GroupManager

private theorem senderKeysFromSnapshot_entries
    (entries stored : List (SenderKeyRecordId K × SenderKeyRecord K))
    (hkeys : ((stored ++ entries).map Prod.fst).Nodup)
    (hpubkeys : ∀ a ∈ stored ++ entries, ∀ b ∈ stored ++ entries,
      a.2.senderEventPubkey = b.2.senderEventPubkey → a.1 = b.1)
    (hentries : ∀ entry ∈ entries, entry.2.id = entry.1 ∧ entry.2.Keyed)
    (manager : GroupManager K) (hstored : manager.senderKeys = SortedMap.ofList stored)
    (hindex : Indexes SenderKeyRecord.senderEventPubkey manager.senderEventIndex
      manager.senderKeys) :
    ∃ index, senderKeysFromSnapshot (entries.map (fun entry => entry.2.snapshot)) manager =
        .ok { manager with
          senderKeys := SortedMap.ofList (stored ++ entries), senderEventIndex := index } ∧
      Indexes SenderKeyRecord.senderEventPubkey index (SortedMap.ofList (stored ++ entries)) := by
  induction entries generalizing stored manager with
  | nil =>
      rw [List.append_nil]
      refine ⟨manager.senderEventIndex, ?_, hstored ▸ hindex⟩
      rw [← hstored]
      rfl
  | cons entry rest ih =>
      obtain ⟨hid, hkeyed⟩ := hentries entry List.mem_cons_self
      have hnew : ∀ value, (entry.1, value) ∉ stored := by
        intro value hmem
        rw [List.map_append, List.map_cons] at hkeys
        exact (List.disjoint_of_nodup_append hkeys) (List.mem_map_of_mem hmem) List.mem_cons_self
      have habsent : manager.senderKeys.get? entry.1 = none := by
        by_contra hne
        obtain ⟨value, hvalue⟩ := Option.ne_none_iff_exists'.mp hne
        rw [hstored] at hvalue
        exact hnew value (SortedMap.mem_of_get?_ofList hvalue)
      have hfree : manager.senderEventIndex.get? entry.2.senderEventPubkey = none := by
        by_contra hne
        obtain ⟨other, hother⟩ := Option.ne_none_iff_exists'.mp hne
        obtain ⟨value, hvalue, hpubkey⟩ := hindex.stored _ _ hother
        rw [hstored] at hvalue
        have hmem := SortedMap.mem_of_get?_ofList hvalue
        have hsame := hpubkeys _ (List.mem_append_left _ hmem) entry
          (List.mem_append_right _ List.mem_cons_self) hpubkey
        exact hnew value (hsame ▸ hmem)
      have hstep : manager.senderKeys.insert entry.1 entry.2 =
          SortedMap.ofList (stored ++ [entry]) := by
        rw [hstored, SortedMap.ofList, SortedMap.ofList, List.foldl_append]
        rfl
      have hrestore : manager.restoreSenderKey entry.2 = .ok { manager with
          senderEventIndex := manager.senderEventIndex.insert entry.2.senderEventPubkey entry.1
          senderKeys := manager.senderKeys.insert entry.1 entry.2 } := by
        unfold restoreSenderKey
        dsimp only
        rw [hid, SortedMap.contains, habsent, hfree]
        rfl
      obtain ⟨index, hread, hexact⟩ := ih (stored ++ [entry]) (by simpa using hkeys)
        (by simpa using hpubkeys) (fun e he => hentries e (List.mem_cons_of_mem _ he))
        { manager with
          senderEventIndex := manager.senderEventIndex.insert entry.2.senderEventPubkey entry.1
          senderKeys := manager.senderKeys.insert entry.1 entry.2 } hstep
        (hindex.insert habsent hfree)
      rw [List.append_assoc, List.singleton_append] at hread hexact
      refine ⟨index, ?_, hexact⟩
      rw [List.map_cons, senderKeysFromSnapshot, SenderKeyRecord.fromSnapshot_snapshot hkeyed]
      change (manager.restoreSenderKey entry.2 >>= fun next => _) = _
      rw [hrestore]
      exact hread

/-- A valid manager is read back from its own snapshot. -/
theorem fromSnapshot_snapshot {manager : GroupManager K} (hgroups : manager.GroupsValid)
    (hvalid : manager.KeysValid) : fromSnapshot manager.snapshot = .ok manager := by
  obtain ⟨index, hread, hexact⟩ := senderKeysFromSnapshot_entries manager.senderKeys.entries []
    manager.senderKeys.nodup_keys (fun a ha b hb hpubkey => by
      have hfound := hvalid.index.found _ _ (SortedMap.mem_entries.mp ha)
      have hfound' := hvalid.index.found _ _ (SortedMap.mem_entries.mp hb)
      rw [hpubkey, hfound'] at hfound
      exact (Option.some.inj hfound).symm)
    (fun entry hmem => ⟨hvalid.id _ _ (SortedMap.mem_entries.mp hmem),
      hvalid.keyed _ _ (SortedMap.mem_entries.mp hmem)⟩)
    ⟨manager.localOwnerPubkey, manager.groups, SortedMap.empty, SortedMap.empty⟩ rfl
    Indexes.empty
  rw [List.nil_append, ofList_entries] at hread hexact
  rw [hexact.unique hvalid.index] at hread
  unfold fromSnapshot
  rw [groupsFromSnapshot_snapshot hgroups]
  change senderKeysFromSnapshot (manager.senderKeys.values.map SenderKeyRecord.snapshot) _ = _
  rw [SortedMap.values, List.map_map]
  exact hread

end GroupManager

/-! Runs. -/

section

variable [DecidableEq T] [Primitives K T] [InvitePrimitives K T] [GroupPayloadCodec K T]

namespace GroupTrail

/-- What a call added to the log. -/
def entriesOf (trail : GroupTrail K T) (action : GroupAction K T) : List (GroupLogEntry K T) :=
  (trail.act action).log.drop trail.log.length

/-- A run in which every new sender-event key is unknown to the manager that makes it. -/
def FreshRun : GroupTrail K T → List (GroupAction K T) → Prop
  | _, [] => True
  | trail, action :: rest =>
      FreshKeys trail (trail.entriesOf action) ∧ FreshRun (trail.act action) rest

/-- A sender-event key passes to the sender of a distribution, from a record of the local
owner without a secret. -/
structure Takes (manager : GroupManager K) (pubkey : SenderEventPubkey K)
    (id id' : SenderKeyRecordId K) (action : GroupAction K T) : Prop where
  payload : ∃ payload distribution,
    action = .payload id'.senderOwner (some id'.senderDevice) payload ∧
    GroupPayloadCodec.decodePairwiseCommand (K := K) payload =
      .ok (some (.senderKeyDistribution distribution)) ∧
    distribution.groupId = id'.groupId ∧ distribution.senderEventPubkey = pubkey
  fromLocal : id.senderOwner = manager.localOwnerPubkey
  byOther : id'.senderOwner ≠ manager.localOwnerPubkey
  noSecret : ∀ record, manager.senderKeys.get? id = some record →
    record.senderEventSecretKey = none

omit [DecidableEq T] [Primitives K T] [InvitePrimitives K T] [GroupPayloadCodec K T] in
/-- Without a secret, a record gives way only when it is the local owner's and the other
sender is not the local owner. -/
private theorem preferNew_fresh {local_ : OwnerPubkey K} {existing : SenderKeyRecord K}
    {id : SenderKeyRecordId K} {pubkey : SenderEventPubkey K} {keyId : Option Nat}
    (h : preferNewDuplicateSenderKey local_ existing
      (SenderKeyRecord.fresh id pubkey none keyId) = true) :
    existing.senderOwner = local_ ∧ existing.senderEventSecretKey = none ∧
      id.senderOwner ≠ local_ := by
  unfold preferNewDuplicateSenderKey at h
  by_cases howner : existing.senderOwner = local_
  · by_cases hid : id.senderOwner = local_
    · cases hsecret : existing.senderEventSecretKey with
      | none => simp [SenderKeyRecord.fresh, howner, hid, hsecret] at h
      | some secret => simp [SenderKeyRecord.fresh, howner, hsecret] at h
    · cases hsecret : existing.senderEventSecretKey with
      | none => exact ⟨howner, rfl, hid⟩
      | some secret => simp [SenderKeyRecord.fresh, howner, hsecret] at h
  · by_cases hid : id.senderOwner = local_
    · simp [SenderKeyRecord.fresh, howner, hid] at h
    · simp [SenderKeyRecord.fresh, howner, hid] at h

omit [DecidableEq T] [Primitives K T] [InvitePrimitives K T] [GroupPayloadCodec K T] in
/-- Where a known sender-event key leads after a distribution was stored. -/
private theorem storeDistribution_index {manager resolved : GroupManager K}
    (hvalid : manager.KeysValid) {sender : SenderKeyRecordId K}
    {distribution : SenderKeyDistribution K}
    (hresolved : manager.resolveDuplicate sender distribution = some resolved)
    {pubkey : SenderEventPubkey K} {id id' : SenderKeyRecordId K}
    (hid : manager.senderEventIndex.get? pubkey = some id)
    (hid' : (resolved.storeDistribution sender distribution).senderEventIndex.get? pubkey =
      some id') :
    id' = id ∨ (distribution.senderEventPubkey = pubkey ∧ id' = sender ∧
      id.senderOwner = manager.localOwnerPubkey ∧
      sender.senderOwner ≠ manager.localOwnerPubkey ∧
      ∀ record, manager.senderKeys.get? id = some record →
        record.senderEventSecretKey = none) := by
  have hindex : resolved.senderEventIndex = manager.senderEventIndex := by
    obtain ⟨rfl, -⟩ | ⟨_, -, -, -, rfl⟩ := GroupManager.resolveDuplicate_cases hresolved
    · rfl
    · rfl
  unfold GroupManager.storeDistribution at hid'
  dsimp only at hid'
  rw [hindex, SortedMap.get?_insert] at hid'
  split at hid'
  · rename_i hpubkey
    cases hid'
    subst pubkey
    obtain ⟨-, hfree⟩ | ⟨existingId, -, hexisting, hprefer, -⟩ :=
      GroupManager.resolveDuplicate_cases hresolved
    · exact Or.inl (hfree id hid).symm
    · rw [hid] at hexisting
      obtain rfl := Option.some.inj hexisting
      obtain ⟨existing, hrecord, -⟩ := hvalid.index.stored _ _ hid
      obtain ⟨howner, hsecret, hother⟩ := preferNew_fresh (hprefer existing hrecord)
      refine Or.inr ⟨rfl, rfl, ?_, hother, ?_⟩
      · rw [← hvalid.id id existing hrecord]
        exact howner
      · intro record hrecord'
        rw [hrecord] at hrecord'
        cases hrecord'
        exact hsecret
  · refine Or.inl ?_
    split at hid'
    · rw [SortedMap.get?_erase] at hid'
      split at hid'
      · cases hid'
      · rw [hid] at hid'
        exact (Option.some.inj hid').symm
    · rw [hid] at hid'
      exact (Option.some.inj hid').symm

/-- What a call with fresh keys does to the sender-key records and their index. -/
theorem act_keysValid {trail : GroupTrail K T} (hgroups : trail.manager.GroupsValid)
    (hvalid : trail.manager.KeysValid) {action : GroupAction K T}
    (hfresh : FreshKeys trail (trail.entriesOf action)) :
    (trail.act action).manager.KeysValid ∧
      ∀ pubkey id id', trail.manager.senderEventIndex.get? pubkey = some id →
        (trail.act action).manager.senderEventIndex.get? pubkey = some id' →
          id' = id ∨ Takes trail.manager pubkey id id' action := by
  have hsame : ∀ next : GroupManager K, next.senderEventIndex = trail.manager.senderEventIndex →
      ∀ pubkey id id', trail.manager.senderEventIndex.get? pubkey = some id →
        next.senderEventIndex.get? pubkey = some id' →
          id' = id ∨ Takes trail.manager pubkey id id' action := by
    intro next hindex pubkey id id' hid hid'
    rw [hindex, hid] at hid'
    exact Or.inl (Option.some.inj hid').symm
  cases action with
  | perform now operation sessions rng =>
      obtain ⟨world, hreach, hend⟩ :=
        GroupM.performsFrom_perform now operation ⟨trail, sessions, rng⟩
      obtain ⟨entries, hlog, hsince⟩ := hreach.preserves
        (I := fun next => ∃ entries, next.log = trail.log ++ entries ∧
          (FreshKeys trail entries → SinceStart trail entries next.manager))
        (fun _ _ heffect htrail => heffect.sinceStart htrail)
        ⟨[], (List.append_nil _).symm, fun _ => ⟨hvalid, fun _ _ h => h, fun _ _ h => Or.inl h⟩⟩
      have hact : trail.act (.perform now operation sessions rng) =
          (Program.exec (GroupM.perform now operation) ⟨trail, sessions, rng⟩).2.toGroupTrail := rfl
      have hfinal : (trail.act (.perform now operation sessions rng)).log = world.log ∧
          (trail.act (.perform now operation sessions rng)).manager.senderEventIndex =
            world.manager.senderEventIndex ∧
          (world.manager.KeysValid →
            (trail.act (.perform now operation sessions rng)).manager.KeysValid) := by
        rw [hact]
        obtain hend | ⟨-, record, -, hend⟩ := hend
        · rw [hend]
          exact ⟨rfl, rfl, fun hworld => hworld⟩
        · rw [hend]
          exact ⟨rfl, rfl, fun hworld => hworld.setGroup _ _⟩
      obtain ⟨hfinalLog, hfinalIndex, hfinalValid⟩ := hfinal
      have hentries : trail.entriesOf (.perform now operation sessions rng) = entries := by
        rw [entriesOf, hfinalLog, hlog, List.drop_left]
      rw [hentries] at hfresh
      have hstart := hsince hfresh
      refine ⟨hfinalValid hstart.valid, ?_⟩
      intro pubkey id id' hid hid'
      rw [hfinalIndex, hstart.kept pubkey id hid] at hid'
      exact Or.inl (Option.some.inj hid').symm
  | payload senderOwner senderDevice payload =>
      have hact : (trail.act (.payload senderOwner senderDevice payload)).manager =
          trail.manager.after
            (trail.manager.handlePairwisePayloadInner senderOwner senderDevice payload) := rfl
      rw [hact]
      cases hresult : trail.manager.handlePairwisePayloadInner senderOwner senderDevice payload with
      | error error => exact ⟨hvalid, hsame _ rfl⟩
      | ok outcome =>
          obtain ⟨event, next⟩ := outcome
          obtain rfl | ⟨snapshot, hdecode, hsnapshot⟩ |
              ⟨device, distribution, rfl, hdecode, hobserved⟩ :=
            GroupManager.handlePairwisePayloadInner_cases hresult
          · exact ⟨hvalid, hsame _ rfl⟩
          · obtain rfl | ⟨record, hrecord, rfl, hexisting⟩ :=
              GroupManager.handleMetadataSnapshot_cases hsnapshot
            · exact ⟨hvalid, hsame _ rfl⟩
            · exact ⟨hvalid.setGroup _ _, hsame _ rfl⟩
          · obtain rfl | ⟨resolved, hresolved, rfl⟩ :=
              GroupManager.observeSenderKeyDistribution_cases hobserved
            · exact ⟨hvalid, hsame _ rfl⟩
            · refine ⟨hvalid.storeDistribution hresolved, ?_⟩
              intro pubkey id id' hid hid'
              obtain rfl | ⟨rfl, rfl, hlocal, hother, hsecret⟩ :=
                storeDistribution_index hvalid hresolved hid hid'
              · exact Or.inl rfl
              · exact Or.inr ⟨⟨payload, distribution, rfl, hdecode, rfl, rfl⟩, hlocal, hother,
                  hsecret⟩
  | senderKeyMessage message =>
      have hact : (trail.act (.senderKeyMessage message)).manager =
          trail.manager.after (trail.manager.handleSenderKeyMessage message) := rfl
      rw [hact]
      cases hresult : trail.manager.handleSenderKeyMessage message with
      | error error => exact ⟨hvalid, hsame _ rfl⟩
      | ok outcome =>
          obtain ⟨plan, happly⟩ := GroupManager.handleSenderKeyMessage_applies hresult
          obtain ⟨hnext, hindex⟩ := hvalid.applySenderKeyReceivePlan happly
          exact ⟨hnext, hsame _ hindex⟩
  | applyPlan plan =>
      have hact : (trail.act (.applyPlan plan)).manager =
          trail.manager.after (trail.manager.applySenderKeyReceivePlan plan) := rfl
      rw [hact]
      cases hresult : trail.manager.applySenderKeyReceivePlan plan with
      | error error => exact ⟨hvalid, hsame _ rfl⟩
      | ok outcome =>
          obtain ⟨hnext, hindex⟩ := hvalid.applySenderKeyReceivePlan hresult
          exact ⟨hnext, hsame _ hindex⟩
  | restore =>
      have hact : (trail.act (.restore)).manager = trail.manager := by
        change trail.manager.restart = _
        rw [GroupManager.restart, GroupManager.fromSnapshot_snapshot hgroups hvalid]
      rw [hact]
      exact ⟨hvalid, hsame _ rfl⟩

theorem run_keysValid {trail : GroupTrail K T} (hgroups : trail.manager.GroupsValid)
    (hvalid : trail.manager.KeysValid) {actions : List (GroupAction K T)}
    (hfresh : trail.FreshRun actions) : (trail.run actions).manager.KeysValid := by
  induction actions generalizing trail with
  | nil => exact hvalid
  | cons action rest ih =>
      exact ih (act_groupsValid hgroups action) (act_keysValid hgroups hvalid hfresh.1).1 hfresh.2

end GroupTrail

/-- Along every run with fresh sender-event keys: the index leads to a record exactly when the
record has the key, the manager is restored from its snapshot, and a call moves a known key
to another sender only from a record of the local owner without a secret, to another owner
whose distribution names the key. -/
theorem senderEventIndex_inverse_and_restored (owner : OwnerPubkey K)
    (actions : List (GroupAction K T)) (hfresh : (GroupTrail.new owner).FreshRun actions) :
    (∀ pubkey id,
      ((GroupTrail.new owner).run actions).manager.senderEventIndex.get? pubkey = some id ↔
        ∃ record, ((GroupTrail.new owner).run actions).manager.senderKeys.get? id = some record ∧
          record.senderEventPubkey = pubkey) ∧
    GroupManager.fromSnapshot ((GroupTrail.new owner).run actions).manager.snapshot =
      .ok ((GroupTrail.new owner).run actions).manager ∧
    ∀ action,
      FreshKeys ((GroupTrail.new owner).run actions)
        (((GroupTrail.new owner).run actions).entriesOf action) →
      ∀ pubkey id id',
        ((GroupTrail.new owner).run actions).manager.senderEventIndex.get? pubkey = some id →
        (((GroupTrail.new owner).run actions).act action).manager.senderEventIndex.get? pubkey =
          some id' →
        id' = id ∨ GroupTrail.Takes ((GroupTrail.new owner).run actions).manager pubkey id id'
          action := by
  have hgroups : ((GroupTrail.new (T := T) owner).run actions).manager.GroupsValid :=
    GroupTrail.run_groupsValid (GroupManager.groupsValid_new owner) actions
  have hvalid : ((GroupTrail.new (T := T) owner).run actions).manager.KeysValid :=
    GroupTrail.run_keysValid (GroupManager.groupsValid_new owner)
      (GroupManager.keysValid_new owner) hfresh
  exact ⟨fun _ _ => hvalid.index.get?_eq_some_iff, GroupManager.fromSnapshot_snapshot hgroups hvalid,
    fun _ hstep => (GroupTrail.act_keysValid hgroups hvalid hstep).2⟩

end

namespace GroupWire

/-- Owner 1 hears of a sender-key group of owner 2 and sends a message to it. -/
def senderKeyActions : List (GroupAction KeyTerm TextTerm) :=
  takenIdActions ++ [.perform 8 (.sendMessage "group" (.bytes "hello")) (exampleSessions 1)
    (exampleRng 10 "")]

private theorem senderKeyActions_fresh :
    (GroupTrail.new (exampleOwner 1)).FreshRun senderKeyActions :=
  ⟨⟨by decide +kernel, by decide +kernel⟩, ⟨by decide +kernel, by decide +kernel⟩, trivial⟩

/-- The sender-event key that was made for the message is indexed and restored. -/
theorem sent_message_key_is_restored :
    (∃ id, ((GroupTrail.new (exampleOwner 1)).run senderKeyActions).manager.senderEventIndex.get?
      (exampleDevice 10) = some id) ∧
    GroupManager.fromSnapshot
        ((GroupTrail.new (exampleOwner 1)).run senderKeyActions).manager.snapshot =
      .ok ((GroupTrail.new (exampleOwner 1)).run senderKeyActions).manager := by
  refine ⟨⟨⟨"group", exampleOwner 1, exampleDevice 1⟩, by decide +kernel⟩, ?_⟩
  exact (senderEventIndex_inverse_and_restored (exampleOwner 1) senderKeyActions
    senderKeyActions_fresh).2.1

/-- A distribution of the chain of a sender-event key. -/
def exampleDistribution (pubkey : Nat) (iteration : Nat) : SenderKeyDistribution KeyTerm where
  groupId := "group"
  keyId := 7
  senderEventPubkey := exampleDevice pubkey
  chainKey := .point (.secret 60)
  iteration := iteration
  createdAt := 8

/-- Device 4 of the local owner, owner 1, has announced its sender-event key. -/
def siblingActions : List (GroupAction KeyTerm TextTerm) :=
  takenIdActions ++ [.payload (exampleOwner 1) (some (exampleDevice 4))
    (examplePayload 4 (.senderKeyDistribution (exampleDistribution 50 0)))]

def takingAction : GroupAction KeyTerm TextTerm :=
  .payload (exampleOwner 2) (some (exampleDevice 2))
    (examplePayload 2 (.senderKeyDistribution (exampleDistribution 50 0)))

/-- Owner 2 names the sender-event key of the local owner's other device and gets it. -/
theorem member_takes_sibling_key :
    (GroupTrail.new (exampleOwner 1)).FreshRun (siblingActions ++ [takingAction]) ∧
    ((GroupTrail.new (exampleOwner 1)).run siblingActions).manager.senderEventIndex.get?
      (exampleDevice 50) = some ⟨"group", exampleOwner 1, exampleDevice 4⟩ ∧
    (((GroupTrail.new (exampleOwner 1)).run siblingActions).act
      takingAction).manager.senderEventIndex.get? (exampleDevice 50) =
        some ⟨"group", exampleOwner 2, exampleDevice 2⟩ := by
  refine ⟨⟨⟨by decide +kernel, by decide +kernel⟩, ⟨by decide +kernel, by decide +kernel⟩,
    ⟨by decide +kernel, by decide +kernel⟩, trivial⟩, by decide +kernel, by decide +kernel⟩

end GroupWire

end NostrDoubleRatchet
