import NostrDoubleRatchet.Group.SenderKeyIndex
import NostrDoubleRatchet.Group.SendSteps

/-!
Who holds the chain of a sender-key message. The manager of one device keeps, for every chain
of its sender keys, the owners it has handed a distribution of the chain to; a message is sent
on a chain only when all of them are members of the group.
-/

namespace NostrDoubleRatchet

variable {K T : Type} [LinearOrder K]

/-- The owners a chain was handed to, after one more entry of the log. A chain begins without
holders. -/
def hold (id : SenderKeyRecordId K) (keyId : Nat) (held : List (OwnerPubkey K)) :
    GroupLogEntry K T → List (OwnerPubkey K)
  | .created _ _ => held
  | .started id' keyId' => if id' = id ∧ keyId' = keyId then [] else held
  | .addressed owner (.senderKeyDistribution distribution) =>
      if distribution.groupId = id.groupId ∧ distribution.keyId = keyId then held ++ [owner]
      else held
  | .addressed _ _ => held

/-- The owners that were handed a distribution of the latest chain under a key id. -/
def holders (id : SenderKeyRecordId K) (keyId : Nat) (log : List (GroupLogEntry K T)) :
    List (OwnerPubkey K) :=
  log.foldl (hold id keyId) []

theorem holders_append (id : SenderKeyRecordId K) (keyId : Nat)
    (log entries : List (GroupLogEntry K T)) :
    holders id keyId (log ++ entries) = entries.foldl (hold id keyId) (holders id keyId log) :=
  List.foldl_append

/-- Addressing a command adds its recipients when it is a distribution of the chain. -/
theorem mem_foldl_hold_addressed {id : SenderKeyRecordId K} {keyId : Nat}
    {owners held : List (OwnerPubkey K)} {command : GroupPairwiseCommand K T}
    {holder : OwnerPubkey K}
    (h : holder ∈ (owners.map (GroupLogEntry.addressed · command)).foldl (hold id keyId) held) :
    holder ∈ held ∨ holder ∈ owners ∧ ∃ distribution,
      command = .senderKeyDistribution distribution ∧ distribution.groupId = id.groupId ∧
        distribution.keyId = keyId := by
  induction owners generalizing held with
  | nil => exact Or.inl h
  | cons owner rest ih =>
      obtain hstep | ⟨hmem, hcommand⟩ := ih h
      · cases command with
        | senderKeyDistribution distribution =>
            change holder ∈ (if distribution.groupId = id.groupId ∧ distribution.keyId = keyId
              then held ++ [owner] else held) at hstep
            split at hstep
            · rename_i hmatch
              obtain hheld | hnew := List.mem_append.mp hstep
              · exact Or.inl hheld
              · rw [List.mem_singleton] at hnew
                subst hnew
                exact Or.inr ⟨List.mem_cons_self, distribution, rfl, hmatch⟩
            · exact Or.inl hstep
        | metadataSnapshot snapshot => exact Or.inl hstep
        | groupMessage groupId revision body => exact Or.inl hstep
        | senderKeyRepairRequest request => exact Or.inl hstep
      · exact Or.inr ⟨List.mem_cons_of_mem _ hmem, hcommand⟩

theorem mem_holders_address {id : SenderKeyRecordId K} {keyId : Nat} {trail : GroupTrail K T}
    {owners : List (OwnerPubkey K)} {command : GroupPairwiseCommand K T} {holder : OwnerPubkey K}
    (h : holder ∈ holders id keyId (trail.address owners command).log) :
    holder ∈ holders id keyId trail.log ∨ holder ∈ owners ∧ ∃ distribution,
      command = .senderKeyDistribution distribution ∧ distribution.groupId = id.groupId ∧
        distribution.keyId = keyId := by
  rw [GroupTrail.address, holders_append] at h
  exact mem_foldl_hold_addressed h

theorem mem_holders_started {id id' : SenderKeyRecordId K} {keyId keyId' : Nat}
    {log : List (GroupLogEntry K T)} {holder : OwnerPubkey K}
    (h : holder ∈ holders id keyId (log ++ [.started id' keyId'])) :
    holder ∈ holders id keyId log ∧ ¬ (id' = id ∧ keyId' = keyId) := by
  rw [holders_append] at h
  change holder ∈ (if id' = id ∧ keyId' = keyId then [] else holders id keyId log) at h
  split at h
  · cases h
  · exact ⟨h, ‹_›⟩

/-- The record counts `holder` among the recipients of a chain. -/
def SenderKeyRecord.DistributedTo (record : SenderKeyRecord K) (keyId : Nat)
    (holder : OwnerPubkey K) : Prop :=
  ∃ owners, record.distributedTo.get? keyId = some owners ∧ holder ∈ owners

namespace SenderKeyRecord

theorem distributedTo_markDistributed {record : SenderKeyRecord K} {keyId keyId' : Nat}
    {recipients : List (OwnerPubkey K)} {holder : OwnerPubkey K}
    (h : record.DistributedTo keyId' holder) :
    (record.markDistributed keyId recipients).DistributedTo keyId' holder := by
  obtain ⟨owners, hget, hmem⟩ := h
  unfold DistributedTo markDistributed
  dsimp only
  rw [SortedMap.get?_insert]
  split
  · subst keyId'
    refine ⟨_, rfl, ?_⟩
    rw [hget, SortedSet.mem_extend]
    exact Or.inr hmem
  · exact ⟨owners, hget, hmem⟩

theorem distributedTo_marked {record : SenderKeyRecord K} {keyId : Nat}
    {recipients : List (OwnerPubkey K)} {holder : OwnerPubkey K} (h : holder ∈ recipients) :
    (record.markDistributed keyId recipients).DistributedTo keyId holder :=
  ⟨_, SortedMap.get?_insert_self _ _ _, SortedSet.mem_extend.mpr (Or.inl h)⟩

/-- Recording a repair snapshot keeps everything but the snapshots. -/
theorem recordRepairSnapshot_eq (record : SenderKeyRecord K)
    (distribution : SenderKeyDistribution K) (recipients : List (OwnerPubkey K)) :
    ∃ snapshots, record.recordRepairSnapshot distribution recipients =
        { record with repairSnapshots := snapshots } ∧
      ∀ snapshot ∈ snapshots, snapshot ∈ record.repairSnapshots ∨
        snapshot.distribution = distribution ∧
          ∀ recipient ∈ snapshot.recipients, recipient ∈ recipients := by
  unfold recordRepairSnapshot
  dsimp only
  split
  · exact ⟨record.repairSnapshots, rfl, fun snapshot hmem => Or.inl hmem⟩
  · refine ⟨_, rfl, ?_⟩
    intro snapshot hmem
    obtain hold | hnew := List.mem_append.mp hmem
    · exact Or.inl hold
    · rw [List.mem_singleton] at hnew
      subst hnew
      refine Or.inr ⟨rfl, ?_⟩
      intro recipient hrecipient
      exact SortedSet.mem_ofList.mp (SortedSet.mem_toList.mp hrecipient)

end SenderKeyRecord

/-- What the manager of `owner` on `device` knows about its own sender keys: they are the
records of `owner` with a secret, the holders of their chains are recorded as recipients, and
so are the recipients of their repair snapshots. -/
structure Accounted (owner : OwnerPubkey K) (device : DevicePubkey K)
    (trail : GroupTrail K T) : Prop where
  localOwner : trail.manager.localOwnerPubkey = owner
  secret : ∀ id record, trail.manager.senderKeys.get? id = some record →
    id.senderOwner = owner → (record.senderEventSecretKey.isSome ↔ id.senderDevice = device)
  held : ∀ groupId record, trail.manager.senderKeys.get? ⟨groupId, owner, device⟩ = some record →
    ∀ keyId, (record.states.get? keyId).isSome →
      ∀ holder ∈ holders ⟨groupId, owner, device⟩ keyId trail.log,
        holder = owner ∨ record.DistributedTo keyId holder
  repairs : ∀ groupId record,
    trail.manager.senderKeys.get? ⟨groupId, owner, device⟩ = some record →
      ∀ snapshot ∈ record.repairSnapshots, snapshot.distribution.groupId = groupId ∧
        ∀ recipient ∈ snapshot.recipients,
          recipient = owner ∨ record.DistributedTo snapshot.distribution.keyId recipient

/-- Some of the own records may go; the others and the log stay, and no other record of the
owner gets a secret. -/
structure OwnKept (owner : OwnerPubkey K) (device : DevicePubkey K)
    (trail next : GroupTrail K T) : Prop where
  localOwner : next.manager.localOwnerPubkey = owner
  log : next.log = trail.log
  secret : ∀ id record, next.manager.senderKeys.get? id = some record →
    id.senderOwner = owner → (record.senderEventSecretKey.isSome ↔ id.senderDevice = device)
  own : ∀ groupId record, next.manager.senderKeys.get? ⟨groupId, owner, device⟩ = some record →
    trail.manager.senderKeys.get? ⟨groupId, owner, device⟩ = some record

namespace Accounted

variable {owner : OwnerPubkey K} {device : DevicePubkey K} {trail next : GroupTrail K T}

theorem new (owner : OwnerPubkey K) (device : DevicePubkey K) :
    Accounted (T := T) owner device (GroupTrail.new owner) :=
  ⟨rfl, (fun _ _ h => by cases h), (fun _ _ h => by cases h), (fun _ _ h => by cases h)⟩

theorem of_ownKept (h : Accounted owner device trail) (hkept : OwnKept owner device trail next) :
    Accounted owner device next := by
  refine ⟨hkept.localOwner, hkept.secret, ?_, ?_⟩
  · intro groupId record hrecord
    rw [hkept.log]
    exact h.held groupId record (hkept.own groupId record hrecord)
  · intro groupId record hrecord
    exact h.repairs groupId record (hkept.own groupId record hrecord)

/-- Nothing happens to the records. -/
theorem ownKept (h : Accounted owner device trail) {manager : GroupManager K}
    (hlocal : manager.localOwnerPubkey = owner)
    (hkeys : manager.senderKeys = trail.manager.senderKeys) :
    OwnKept owner device trail ⟨manager, trail.log⟩ := by
  refine ⟨hlocal, rfl, ?_, ?_⟩
  · rw [hkeys]
    exact h.secret
  · rw [hkeys]
    exact fun _ _ hrecord => hrecord

/-- The manager stays and the log gets entries that add no holder but recorded ones. -/
theorem of_log (h : Accounted owner device trail) (hmanager : next.manager = trail.manager)
    (hholders : ∀ groupId record,
      trail.manager.senderKeys.get? ⟨groupId, owner, device⟩ = some record →
      ∀ keyId, ∀ holder ∈ holders ⟨groupId, owner, device⟩ keyId next.log,
        holder ∈ holders ⟨groupId, owner, device⟩ keyId trail.log ∨ holder = owner ∨
          record.DistributedTo keyId holder) : Accounted owner device next := by
  refine ⟨?_, ?_, ?_, ?_⟩
  · rw [hmanager]
    exact h.localOwner
  · rw [hmanager]
    exact h.secret
  · intro groupId record hrecord keyId hstate holder hholder
    rw [hmanager] at hrecord
    obtain hold | hnew := hholders groupId record hrecord keyId holder hholder
    · exact h.held groupId record hrecord keyId hstate holder hold
    · exact hnew
  · rw [hmanager]
    exact h.repairs

/-- The record of one own key changes, with a log that adds no holder to the others. -/
theorem of_update (h : Accounted owner device trail) (groupId : String)
    (record : SenderKeyRecord K)
    (hlocal : next.manager.localOwnerPubkey = owner)
    (hkeys : next.manager.senderKeys =
      trail.manager.senderKeys.insert ⟨groupId, owner, device⟩ record)
    (hsecret : record.senderEventSecretKey.isSome)
    (hother : ∀ other, other ≠ groupId → ∀ keyId,
      ∀ holder ∈ holders ⟨other, owner, device⟩ keyId next.log,
        holder ∈ holders ⟨other, owner, device⟩ keyId trail.log)
    (hheld : ∀ keyId, (record.states.get? keyId).isSome →
      ∀ holder ∈ holders ⟨groupId, owner, device⟩ keyId next.log,
        holder = owner ∨ record.DistributedTo keyId holder)
    (hrepairs : ∀ snapshot ∈ record.repairSnapshots, snapshot.distribution.groupId = groupId ∧
      ∀ recipient ∈ snapshot.recipients,
        recipient = owner ∨ record.DistributedTo snapshot.distribution.keyId recipient) :
    Accounted owner device next := by
  have hget : ∀ other found,
      next.manager.senderKeys.get? ⟨other, owner, device⟩ = some found →
        (other = groupId ∧ found = record) ∨ (other ≠ groupId ∧
          trail.manager.senderKeys.get? ⟨other, owner, device⟩ = some found) := by
    intro other found hfound
    rw [hkeys, SortedMap.get?_insert] at hfound
    split at hfound
    · rename_i hid
      cases hfound
      exact Or.inl ⟨(SenderKeyRecordId.mk.inj hid).1.symm, rfl⟩
    · rename_i hid
      exact Or.inr ⟨fun hother => hid (by rw [hother]), hfound⟩
  refine ⟨hlocal, ?_, ?_, ?_⟩
  · rw [hkeys]
    exact SortedMap.forall_get?_insert h.secret (fun _ => iff_of_true hsecret rfl)
  · intro other found hfound keyId hstate holder hholder
    obtain ⟨rfl, rfl⟩ | ⟨hne, hold⟩ := hget other found hfound
    · exact hheld keyId hstate holder hholder
    · exact h.held other found hold keyId hstate holder (hother other hne keyId holder hholder)
  · intro other found hfound
    obtain ⟨rfl, rfl⟩ | ⟨-, hold⟩ := hget other found hfound
    · exact hrepairs
    · exact h.repairs other found hold

/-- The own record gets a repair snapshot. -/
theorem of_snapshots (h : Accounted owner device trail) {groupId : String}
    {record : SenderKeyRecord K} {snapshots : List (GroupSenderKeyRepairSnapshot K)}
    (hrecord : trail.manager.senderKeys.get? ⟨groupId, owner, device⟩ = some record)
    (hnext : next = trail.onManager
      (·.setSenderKey ⟨groupId, owner, device⟩ { record with repairSnapshots := snapshots }))
    (hsnapshots : ∀ snapshot ∈ snapshots, snapshot ∈ record.repairSnapshots ∨
      snapshot.distribution.groupId = groupId ∧
        ∀ recipient ∈ snapshot.recipients, recipient = owner) :
    Accounted owner device next := by
  subst hnext
  refine h.of_update groupId _ h.localOwner rfl ((h.secret _ _ hrecord rfl).mpr rfl)
    (fun _ _ _ _ hholder => hholder) (h.held groupId record hrecord) ?_
  intro snapshot hmem
  obtain hold | ⟨hgroup, hrecipients⟩ := hsnapshots snapshot hmem
  · exact h.repairs groupId record hrecord snapshot hold
  · exact ⟨hgroup, fun recipient hrecipient => Or.inl (hrecipients recipient hrecipient)⟩

/-- The own record gets a repair snapshot for recipients that are marked as holders, and the
log says they were addressed. -/
theorem of_distributed (h : Accounted owner device trail)
    {distribution : SenderKeyDistribution K} {recipients : List (OwnerPubkey K)}
    {record : SenderKeyRecord K} {snapshots : List (GroupSenderKeyRepairSnapshot K)}
    (hrecord : trail.manager.senderKeys.get? ⟨distribution.groupId, owner, device⟩ = some record)
    (hnext : next = (trail.address recipients (.senderKeyDistribution distribution)).onManager
      (·.setSenderKey ⟨distribution.groupId, owner, device⟩
        ({ record with repairSnapshots := snapshots }.markDistributed distribution.keyId
          recipients)))
    (hsnapshots : ∀ snapshot ∈ snapshots, snapshot ∈ record.repairSnapshots ∨
      snapshot.distribution = distribution ∧
        ∀ recipient ∈ snapshot.recipients, recipient ∈ recipients) :
    Accounted owner device next := by
  subst hnext
  refine h.of_update distribution.groupId _ h.localOwner rfl
    ((h.secret _ _ hrecord rfl).mpr rfl) ?_ ?_ ?_
  · intro other hne keyId holder hholder
    obtain hold | ⟨-, found, heq, hgroup, -⟩ := mem_holders_address hholder
    · exact hold
    · cases heq
      exact absurd hgroup.symm hne
  · intro keyId hstate holder hholder
    obtain hold | ⟨hmem, found, heq, -, hkeyId⟩ := mem_holders_address hholder
    · obtain rfl | hdistributed := h.held _ record hrecord keyId hstate holder hold
      · exact Or.inl rfl
      · exact Or.inr (SenderKeyRecord.distributedTo_markDistributed hdistributed)
    · cases heq
      subst hkeyId
      exact Or.inr (SenderKeyRecord.distributedTo_marked hmem)
  · intro snapshot hmem
    obtain hold | ⟨rfl, hrecipients⟩ := hsnapshots snapshot hmem
    · obtain ⟨hgroup, hrecipients⟩ := h.repairs _ record hrecord snapshot hold
      refine ⟨hgroup, fun recipient hrecipient => ?_⟩
      obtain rfl | hdistributed := hrecipients recipient hrecipient
      · exact Or.inl rfl
      · exact Or.inr (SenderKeyRecord.distributedTo_markDistributed hdistributed)
    · exact ⟨rfl, fun recipient hrecipient =>
        Or.inr (SenderKeyRecord.distributedTo_marked (hrecipients recipient hrecipient))⟩

/-- When no recipient of the latest chain was removed, all of them are members. -/
theorem member_of_distributed (h : Accounted owner device trail) {group : GroupRecord K}
    {record : SenderKeyRecord K} {keyId : Nat} {holder : OwnerPubkey K}
    (hnone : trail.manager.localSenderKeyHasRemovedRecipients group device = false)
    (hrecord : trail.manager.senderKeys.get? ⟨group.groupId, owner, device⟩ = some record)
    (hlatest : record.latestKeyId = some keyId) (hholder : record.DistributedTo keyId holder) :
    holder ∈ group.members := by
  obtain ⟨owners, howners, hmem⟩ := hholder
  unfold GroupManager.localSenderKeyHasRemovedRecipients at hnone
  rw [GroupManager.localSenderKeyId, h.localOwner, hrecord] at hnone
  dsimp only at hnone
  rw [hlatest] at hnone
  dsimp only at hnone
  rw [howners, Option.any_some, List.any_eq_false] at hnone
  have hmember := hnone holder (SortedSet.mem_toList.mpr hmem)
  simpa using hmember

/-- The two updates after a fan-out change the own record once. -/
private theorem recordAndMark {manager : GroupManager K} {distribution : SenderKeyDistribution K}
    {record : SenderKeyRecord K}
    (hrecord : manager.senderKeys.get? ⟨distribution.groupId, owner, device⟩ = some record)
    (hlocal : manager.localOwnerPubkey = owner) (recipients : List (OwnerPubkey K))
    (hne : recipients.isEmpty = false) :
    (manager.recordSenderKeyRepairSnapshot distribution.groupId device distribution
      recipients).markSenderKeyDistributionRecipients distribution.groupId device
        distribution.keyId recipients =
      manager.setSenderKey ⟨distribution.groupId, owner, device⟩
        ((record.recordRepairSnapshot distribution recipients).markDistributed distribution.keyId
          recipients) := by
  have hrecorded : manager.recordSenderKeyRepairSnapshot distribution.groupId device distribution
      recipients = manager.setSenderKey ⟨distribution.groupId, owner, device⟩
        (record.recordRepairSnapshot distribution recipients) := by
    unfold GroupManager.recordSenderKeyRepairSnapshot GroupManager.modifySenderKey
    rw [GroupManager.localSenderKeyId, hlocal, hrecord, hne]
    rfl
  rw [hrecorded]
  unfold GroupManager.markSenderKeyDistributionRecipients GroupManager.modifySenderKey
  have hget : (manager.setSenderKey ⟨distribution.groupId, owner, device⟩
      (record.recordRepairSnapshot distribution recipients)).senderKeys.get?
        ⟨distribution.groupId, owner, device⟩ =
          some (record.recordRepairSnapshot distribution recipients) :=
    SortedMap.get?_insert_self _ _ _
  have hid : (manager.setSenderKey ⟨distribution.groupId, owner, device⟩
      (record.recordRepairSnapshot distribution recipients)).localSenderKeyId
        distribution.groupId device = ⟨distribution.groupId, owner, device⟩ := by
    rw [GroupManager.localSenderKeyId]
    exact congrArg (SenderKeyRecordId.mk _ · _) hlocal
  rw [hid, hget, hne]
  exact GroupManager.setSenderKey_setSenderKey _ _ _ _

theorem effect (h : Accounted owner device trail) (heffect : GroupEffect owner device trail next) :
    Accounted owner device next := by
  have hid : ∀ groupId, trail.localId groupId device = ⟨groupId, owner, device⟩ := by
    intro groupId
    rw [GroupTrail.localId, GroupManager.localSenderKeyId, h.localOwner]
  cases heffect with
  | announced owners command hcommand =>
      refine h.of_log rfl fun groupId record hrecord keyId holder hholder => ?_
      obtain hold | ⟨-, distribution, heq, -⟩ := mem_holders_address hholder
      · exact Or.inl hold
      · exact absurd heq (hcommand distribution)
  | shared command =>
      refine h.of_log rfl fun groupId record hrecord keyId holder hholder => ?_
      obtain hold | ⟨hmem, -⟩ := mem_holders_address hholder
      · exact Or.inl hold
      · exact Or.inr (Or.inl (List.mem_singleton.mp hmem))
  | created groupId pubkey secret habsent =>
      rw [hid]
      refine h.of_update groupId _ h.localOwner rfl rfl ?_ ?_ ?_
      · intro other _ keyId holder hholder
        rw [holders_append] at hholder
        exact hholder
      · intro keyId hstate
        cases hstate
      · intro snapshot hmem
        cases hmem
  | started groupId record distribution hrecord =>
      rw [hid] at hrecord ⊢
      have hsecret := (h.secret _ _ hrecord rfl).mpr rfl
      refine h.of_update groupId _ h.localOwner rfl hsecret ?_ ?_ ?_
      · intro other _ keyId holder hholder
        exact (mem_holders_started hholder).1
      · intro keyId hstate holder hholder
        obtain ⟨hold, hne⟩ := mem_holders_started hholder
        have hkey : distribution.keyId ≠ keyId := fun heq => hne ⟨rfl, heq⟩
        change ((record.states.insert distribution.keyId _).get? keyId).isSome at hstate
        rw [SortedMap.get?_insert_ne _ _ hkey] at hstate
        exact h.held groupId record hrecord keyId hstate holder hold
      · exact h.repairs groupId record hrecord
  | distributed recipients distribution hcurrent =>
      obtain ⟨record, -, hget, -⟩ := hcurrent
      rw [hid] at hget
      cases recipients with
      | nil =>
          refine h.of_log rfl fun groupId found hfound keyId holder hholder => ?_
          obtain hold | ⟨hmem, -⟩ := mem_holders_address hholder
          · exact Or.inl hold
          · cases hmem
      | cons first rest =>
          obtain ⟨snapshots, heq, hsnapshots⟩ :=
            record.recordRepairSnapshot_eq distribution (first :: rest)
          refine h.of_distributed hget ?_ hsnapshots
          rw [← heq]
          exact congrArg (GroupTrail.mk · _) (recordAndMark hget h.localOwner _ rfl)
  | remembered distribution =>
      obtain hnone | ⟨record, hget⟩ : trail.manager.senderKeys.get?
          ⟨distribution.groupId, owner, device⟩ = none ∨ ∃ record,
          trail.manager.senderKeys.get? ⟨distribution.groupId, owner, device⟩ = some record := by
        cases trail.manager.senderKeys.get? ⟨distribution.groupId, owner, device⟩ with
        | none => exact Or.inl rfl
        | some record => exact Or.inr ⟨record, rfl⟩
      · refine h.of_log ?_ fun _ _ _ _ _ hholder => Or.inl hholder
        change trail.manager.recordSenderKeyRepairSnapshot distribution.groupId device
          distribution [trail.manager.localOwnerPubkey] = trail.manager
        unfold GroupManager.recordSenderKeyRepairSnapshot GroupManager.modifySenderKey
        rw [GroupManager.localSenderKeyId, h.localOwner, hnone]
        rfl
      · obtain ⟨snapshots, heq, hsnapshots⟩ :=
          record.recordRepairSnapshot_eq distribution [owner]
        refine h.of_snapshots hget (congrArg (GroupTrail.mk · _) (?_ : _ =
          trail.manager.setSenderKey _ { record with repairSnapshots := snapshots })) ?_
        · rw [← heq]
          change trail.manager.recordSenderKeyRepairSnapshot distribution.groupId device
            distribution [trail.manager.localOwnerPubkey] = _
          unfold GroupManager.recordSenderKeyRepairSnapshot GroupManager.modifySenderKey
          rw [GroupManager.localSenderKeyId, h.localOwner, hget]
          rfl
        · intro snapshot hmem
          obtain hold | ⟨rfl, hrecipients⟩ := hsnapshots snapshot hmem
          · exact Or.inl hold
          · exact Or.inr ⟨rfl, fun recipient hrecipient =>
              List.mem_singleton.mp (hrecipients recipient hrecipient)⟩
  | repaired requester id record snapshot howner hrecord hsecret hsnapshot hrecipient =>
      rw [h.localOwner] at howner
      have hdevice := (h.secret id record hrecord howner).mp hsecret
      have hidEq : id = ⟨id.groupId, owner, device⟩ := by
        rw [← howner, ← hdevice]
      rw [hidEq] at hrecord
      obtain ⟨hgroup, hrecipients⟩ := h.repairs id.groupId record hrecord snapshot hsnapshot
      refine h.of_log rfl fun groupId found hfound keyId holder hholder => ?_
      obtain hold | ⟨hmem, distribution, heq, hgroupId, hkeyId⟩ := mem_holders_address hholder
      · exact Or.inl hold
      · rw [List.mem_singleton] at hmem
        subst hmem
        cases heq
        change snapshot.distribution.groupId = groupId at hgroupId
        rw [hgroup] at hgroupId
        subst hgroupId
        rw [hrecord] at hfound
        cases hfound
        rw [← hkeyId]
        exact Or.inr (hrecipients holder hrecipient)
  | emitted groupId record keyId state advanced hrecord hlatest hstate hnext hiteration =>
      rw [hid] at hrecord ⊢
      have hsecret := (h.secret _ _ hrecord rfl).mpr rfl
      refine h.of_update groupId _ h.localOwner rfl hsecret ?_ ?_ ?_
      · exact fun _ _ _ _ hholder => hholder
      · intro keyId' hstate' holder hholder
        refine h.held groupId record hrecord keyId' ?_ holder hholder
        change ((record.states.insert keyId advanced).get? keyId').isSome at hstate'
        rw [SortedMap.get?_insert] at hstate'
        split at hstate'
        · subst keyId'
          rw [hstate]
          rfl
        · exact hstate'
      · exact h.repairs groupId record hrecord

/-- A record comes or changes that is not the own one of the device. -/
theorem ownKept_other (h : Accounted owner device trail) {id : SenderKeyRecordId K}
    {record : SenderKeyRecord K} {senderKeys : SortedMap (SenderKeyRecordId K) (SenderKeyRecord K)}
    (hlocal : next.manager.localOwnerPubkey = owner) (hlog : next.log = trail.log)
    (hkeys : next.manager.senderKeys = senderKeys.insert id record)
    (hsubset : ∀ id' found, senderKeys.get? id' = some found →
      trail.manager.senderKeys.get? id' = some found)
    (hother : ¬ (id.senderOwner = owner ∧ id.senderDevice = device))
    (hsecret : id.senderOwner = owner → record.senderEventSecretKey = none) :
    OwnKept owner device trail next := by
  refine ⟨hlocal, hlog, ?_, ?_⟩
  · rw [hkeys]
    refine SortedMap.forall_get?_insert ?_ ?_
    · exact fun id' found hfound => h.secret id' found (hsubset id' found hfound)
    · intro howner
      rw [hsecret howner]
      exact iff_of_false Bool.false_ne_true fun hdevice => hother ⟨howner, hdevice⟩
  · intro groupId found hfound
    rw [hkeys, SortedMap.get?_insert] at hfound
    split at hfound
    · rename_i hid
      rw [hid] at hother
      exact absurd ⟨rfl, rfl⟩ hother
    · exact hsubset _ found hfound

theorem ownKept_observe [Primitives K T] (h : Accounted owner device trail)
    {senderOwner : OwnerPubkey K} {senderDevice : DevicePubkey K}
    {distribution : SenderKeyDistribution K} {manager : GroupManager K}
    (hobserved : trail.manager.observeSenderKeyDistribution senderOwner senderDevice
      distribution = .ok manager)
    (hother : ¬ (senderOwner = owner ∧ senderDevice = device)) :
    OwnKept owner device trail ⟨manager, trail.log⟩ := by
  obtain rfl | ⟨resolved, hresolved, rfl⟩ :=
    GroupManager.observeSenderKeyDistribution_cases hobserved
  · exact h.ownKept h.localOwner rfl
  · have hsubset : ∀ id found, resolved.senderKeys.get? id = some found →
        trail.manager.senderKeys.get? id = some found := by
      obtain ⟨rfl, -⟩ | ⟨existingId, -, -, -, rfl⟩ := GroupManager.resolveDuplicate_cases hresolved
      · exact fun _ _ hfound => hfound
      · exact SortedMap.forall_get?_erase fun _ _ hfound => hfound
    refine h.ownKept_other ((GroupManager.observeSenderKeyDistribution_frame hobserved).2.trans
      h.localOwner) rfl rfl hsubset hother ?_
    intro howner
    cases hrecord : resolved.senderKeys.get? ⟨distribution.groupId, senderOwner, senderDevice⟩ with
    | none => rfl
    | some record =>
        have hsecret := h.secret _ record (hsubset _ record hrecord) howner
        by_contra hne
        exact hother ⟨howner, hsecret.mp (Option.isSome_iff_ne_none.mpr hne)⟩

theorem ownKept_applySenderKeyReceivePlan (h : Accounted owner device trail)
    {plan : GroupSenderKeyReceivePlan K T} {result : GroupSenderKeyHandleResult K T}
    {manager : GroupManager K}
    (happly : trail.manager.applySenderKeyReceivePlan plan = .ok (result, manager)) :
    OwnKept owner device trail ⟨manager, trail.log⟩ := by
  obtain rfl | ⟨mutation, record, -, hrecord, hnone, -, rfl⟩ :=
    GroupManager.applySenderKeyReceivePlan_cases happly
  · exact h.ownKept h.localOwner rfl
  · refine h.ownKept_other h.localOwner rfl rfl (fun _ _ hfound => hfound) ?_ fun _ => hnone
    rintro ⟨howner, hdevice⟩
    have hsecret := (h.secret _ record hrecord howner).mpr hdevice
    rw [hnone] at hsecret
    cases hsecret

end Accounted

/-! The records under their ids. -/

namespace GroupManager

/-- Every record is stored under its id and is keyed, whatever the index says. -/
def RecordsValid (manager : GroupManager K) : Prop :=
  ∀ id record, manager.senderKeys.get? id = some record → record.id = id ∧ record.Keyed

theorem RecordsValid.modifySenderKey {manager : GroupManager K} (h : manager.RecordsValid)
    (id : SenderKeyRecordId K) {f : SenderKeyRecord K → SenderKeyRecord K}
    (hf : ∀ record : SenderKeyRecord K, record.id = id ∧ record.Keyed →
      (f record).id = id ∧ (f record).Keyed) :
    (manager.modifySenderKey id f).RecordsValid := by
  unfold GroupManager.modifySenderKey
  split
  · exact h
  · rename_i record hrecord
    exact SortedMap.forall_get?_insert h (hf record (h id record hrecord))

theorem RecordsValid.recordSenderKeyRepairSnapshot {manager : GroupManager K}
    (h : manager.RecordsValid) (groupId : String) (device : DevicePubkey K)
    (distribution : SenderKeyDistribution K) (recipients : List (OwnerPubkey K)) :
    (manager.recordSenderKeyRepairSnapshot groupId device distribution
      recipients).RecordsValid := by
  unfold GroupManager.recordSenderKeyRepairSnapshot
  split
  · exact h
  · refine h.modifySenderKey _ fun record hrecord => ?_
    obtain ⟨snapshots, heq, -⟩ := record.recordRepairSnapshot_eq distribution recipients
    rw [heq]
    exact ⟨hrecord.1, hrecord.2.states, hrecord.2.history, hrecord.2.latest⟩

theorem RecordsValid.markSenderKeyDistributionRecipients {manager : GroupManager K}
    (h : manager.RecordsValid) (groupId : String) (device : DevicePubkey K) (keyId : Nat)
    (recipients : List (OwnerPubkey K)) :
    (manager.markSenderKeyDistributionRecipients groupId device keyId
      recipients).RecordsValid := by
  unfold GroupManager.markSenderKeyDistributionRecipients
  split
  · exact h
  · exact h.modifySenderKey _ fun record hrecord =>
      ⟨hrecord.1, hrecord.2.states, hrecord.2.history, hrecord.2.latest⟩

end GroupManager

theorem GroupEffect.recordsValid {owner : OwnerPubkey K} {device : DevicePubkey K}
    {trail next : GroupTrail K T} (h : GroupEffect owner device trail next)
    (hvalid : trail.manager.RecordsValid) : next.manager.RecordsValid := by
  cases h with
  | announced owners command hcommand => exact hvalid
  | shared command => exact hvalid
  | created groupId pubkey secret habsent =>
      exact SortedMap.forall_get?_insert hvalid ⟨rfl, SenderKeyRecord.keyed_fresh _ _ _⟩
  | started groupId record distribution hrecord =>
      obtain ⟨hid, hkeyed⟩ := hvalid _ record hrecord
      exact SortedMap.forall_get?_insert hvalid ⟨hid, hkeyed.startChain distribution⟩
  | distributed recipients distribution hcurrent =>
      exact (hvalid.recordSenderKeyRepairSnapshot _ _ _ _).markSenderKeyDistributionRecipients
        _ _ _ _
  | remembered distribution =>
      exact hvalid.recordSenderKeyRepairSnapshot distribution.groupId device distribution
        [trail.manager.localOwnerPubkey]
  | repaired requester id record snapshot howner hrecord hsecret hsnapshot hrecipient =>
      exact hvalid
  | emitted groupId record keyId state advanced hrecord hlatest hstate hnext hiteration =>
      obtain ⟨hid, hkeyed⟩ := hvalid _ record hrecord
      exact SortedMap.forall_get?_insert hvalid
        ⟨hid, hkeyed.insertState (hnext.trans (hkeyed.states keyId state hstate))⟩

namespace GroupManager

theorem RecordsValid.observe [Primitives K T] {manager next : GroupManager K}
    (h : manager.RecordsValid) {senderOwner : OwnerPubkey K} {senderDevice : DevicePubkey K}
    {distribution : SenderKeyDistribution K}
    (hobserved : manager.observeSenderKeyDistribution senderOwner senderDevice distribution =
      .ok next) : next.RecordsValid := by
  obtain rfl | ⟨resolved, hresolved, rfl⟩ := observeSenderKeyDistribution_cases hobserved
  · exact h
  · have hrest : resolved.RecordsValid := by
      obtain ⟨rfl, -⟩ | ⟨existingId, -, -, -, rfl⟩ := resolveDuplicate_cases hresolved
      · exact h
      · exact SortedMap.forall_get?_erase h
    exact SortedMap.forall_get?_insert hrest (storeDistribution_record
      (fun id record hrecord => (hrest id record hrecord).1)
      (fun id record hrecord => (hrest id record hrecord).2) _ distribution)

theorem RecordsValid.applySenderKeyReceivePlan {manager next : GroupManager K}
    (h : manager.RecordsValid) {plan : GroupSenderKeyReceivePlan K T}
    {result : GroupSenderKeyHandleResult K T}
    (happly : manager.applySenderKeyReceivePlan plan = .ok (result, next)) :
    next.RecordsValid := by
  obtain rfl | ⟨mutation, record, -, hrecord, -, -, rfl⟩ := applySenderKeyReceivePlan_cases happly
  · exact h
  · obtain ⟨hid, hkeyed⟩ := h _ record hrecord
    exact SortedMap.forall_get?_insert h ⟨hid, hkeyed.insertState rfl⟩

private theorem restoreSenderKey_get? {manager next : GroupManager K}
    {record : SenderKeyRecord K} (h : manager.restoreSenderKey record = .ok next)
    {id : SenderKeyRecordId K} {found : SenderKeyRecord K}
    (hfound : next.senderKeys.get? id = some found) :
    manager.senderKeys.get? id = some found ∨ (found = record ∧ record.id = id) := by
  have hinsert : ∀ senderKeys : SortedMap (SenderKeyRecordId K) (SenderKeyRecord K),
      (senderKeys.insert record.id record).get? id = some found →
        senderKeys.get? id = some found ∨ (found = record ∧ record.id = id) := by
    intro senderKeys hget
    rw [SortedMap.get?_insert] at hget
    split at hget
    · cases hget
      exact Or.inr ⟨rfl, ‹_›⟩
    · exact Or.inl hget
  unfold restoreSenderKey at h
  dsimp only at h
  split at h
  · cases h
  · split at h
    · cases h
      exact hinsert _ hfound
    · split at h
      · cases h
      · split at h
        · cases h
          refine (hinsert _ hfound).imp_left fun hget => ?_
          rw [SortedMap.get?_erase] at hget
          split at hget
          · cases hget
          · exact hget
        · cases h
          exact Or.inl hfound

private theorem senderKeysFromSnapshot_get? {records : List (SenderKeyRecord K)}
    (hkeyed : ∀ record ∈ records, record.Keyed) {manager next : GroupManager K}
    (h : senderKeysFromSnapshot (records.map SenderKeyRecord.snapshot) manager = .ok next)
    {id : SenderKeyRecordId K} {found : SenderKeyRecord K}
    (hfound : next.senderKeys.get? id = some found) :
    manager.senderKeys.get? id = some found ∨ (found ∈ records ∧ found.id = id) := by
  induction records generalizing manager with
  | nil =>
      cases h
      exact Or.inl hfound
  | cons record rest ih =>
      obtain ⟨read, hread, h⟩ := except_bind_eq_ok.mp h
      rw [SenderKeyRecord.fromSnapshot_snapshot (hkeyed record List.mem_cons_self)] at hread
      cases hread
      obtain ⟨mid, hmid, h⟩ := except_bind_eq_ok.mp h
      obtain hget | ⟨hmem, hid⟩ :=
        ih (fun record hmem => hkeyed record (List.mem_cons_of_mem _ hmem)) h
      · obtain hold | ⟨rfl, hid⟩ := restoreSenderKey_get? hmid hget
        · exact Or.inl hold
        · exact Or.inr ⟨List.mem_cons_self, hid⟩
      · exact Or.inr ⟨List.mem_cons_of_mem _ hmem, hid⟩

/-- A restart keeps records as they are or, when two share a sender-event key, drops one. -/
theorem RecordsValid.restart_get? {manager : GroupManager K} (h : manager.RecordsValid)
    {id : SenderKeyRecordId K} {found : SenderKeyRecord K}
    (hfound : manager.restart.senderKeys.get? id = some found) :
    manager.senderKeys.get? id = some found := by
  unfold restart at hfound
  cases hrestored : fromSnapshot manager.snapshot with
  | error error =>
      rw [hrestored] at hfound
      exact hfound
  | ok next =>
      rw [hrestored] at hfound
      obtain ⟨groups, -, hread⟩ := except_bind_eq_ok.mp hrestored
      have hstored : ∀ record ∈ manager.senderKeys.values, ∃ id,
          manager.senderKeys.get? id = some record := by
        intro record hmem
        obtain ⟨⟨id, value⟩, hentry, rfl⟩ := List.mem_map.mp hmem
        exact ⟨id, SortedMap.mem_entries.mp hentry⟩
      obtain hempty | ⟨hmem, hid⟩ := senderKeysFromSnapshot_get? (fun record hmem => by
        obtain ⟨id, hget⟩ := hstored record hmem
        exact (h id record hget).2) hread hfound
      · cases hempty
      · obtain ⟨id', hget⟩ := hstored found hmem
        rw [(h id' found hget).1.symm.trans hid] at hget
        exact hget

end GroupManager

/-- The record under `id` satisfies `Q`. -/
def GroupManager.RecordAt (manager : GroupManager K) (id : SenderKeyRecordId K)
    (Q : SenderKeyRecord K → Prop) : Prop :=
  ∃ record, manager.senderKeys.get? id = some record ∧ Q record

namespace GroupManager.RecordAt

variable {manager : GroupManager K} {id : SenderKeyRecordId K} {Q : SenderKeyRecord K → Prop}

/-- A record replaced by one that still satisfies `Q`. -/
theorem setSenderKey (h : manager.RecordAt id Q) {id' : SenderKeyRecordId K}
    {found next : SenderKeyRecord K} (hfound : manager.senderKeys.get? id' = some found)
    (hnext : Q found → Q next) : (manager.setSenderKey id' next).RecordAt id Q := by
  obtain ⟨record, hrecord, hQ⟩ := h
  by_cases hid : id' = id
  · subst hid
    rw [hrecord] at hfound
    cases hfound
    exact ⟨next, SortedMap.get?_insert_self _ _ _, hnext hQ⟩
  · exact ⟨record, (SortedMap.get?_insert_ne _ _ hid).trans hrecord, hQ⟩

theorem modifySenderKey (h : manager.RecordAt id Q) (id' : SenderKeyRecordId K)
    {f : SenderKeyRecord K → SenderKeyRecord K} (hf : ∀ record, Q record → Q (f record)) :
    (manager.modifySenderKey id' f).RecordAt id Q := by
  unfold GroupManager.modifySenderKey
  split
  · exact h
  · rename_i found hfound
    exact h.setSenderKey hfound (hf found)

theorem recordSenderKeyRepairSnapshot (h : manager.RecordAt id Q)
    (hQ : ∀ (record : SenderKeyRecord K) snapshots, Q record →
      Q { record with repairSnapshots := snapshots }) (groupId : String)
    (device : DevicePubkey K) (distribution : SenderKeyDistribution K)
    (recipients : List (OwnerPubkey K)) :
    (manager.recordSenderKeyRepairSnapshot groupId device distribution recipients).RecordAt id
      Q := by
  unfold GroupManager.recordSenderKeyRepairSnapshot
  split
  · exact h
  · refine h.modifySenderKey _ fun record hrecord => ?_
    obtain ⟨snapshots, heq, -⟩ := record.recordRepairSnapshot_eq distribution recipients
    rw [heq]
    exact hQ record snapshots hrecord

theorem markSenderKeyDistributionRecipients (h : manager.RecordAt id Q)
    (hQ : ∀ (record : SenderKeyRecord K) keyId recipients, Q record →
      Q (record.markDistributed keyId recipients)) (groupId : String) (device : DevicePubkey K)
    (keyId : Nat) (recipients : List (OwnerPubkey K)) :
    (manager.markSenderKeyDistributionRecipients groupId device keyId recipients).RecordAt id
      Q := by
  unfold GroupManager.markSenderKeyDistributionRecipients
  split
  · exact h
  · exact h.modifySenderKey _ fun record hrecord => hQ record keyId recipients hrecord

end GroupManager.RecordAt

/-! Runs. -/

section

variable [DecidableEq T] [Primitives K T] [InvitePrimitives K T] [GroupPayloadCodec K T]

/-- The calls of the manager of `owner` on `device`: it works with the session manager of the
device, which hands it no distribution that the device has sent itself. -/
def GroupAction.RunsOn (owner : OwnerPubkey K) (device : DevicePubkey K) :
    GroupAction K T → Prop
  | .perform _ _ sessions _ =>
      sessions.localOwnerPubkey = owner ∧ sessions.localDevicePubkey = device
  | .payload senderOwner senderDevice bytes => ∀ distribution,
      GroupPayloadCodec.decodePairwiseCommand (K := K) bytes =
        .ok (some (.senderKeyDistribution distribution)) →
      ¬ (senderOwner = owner ∧ senderDevice = some device)
  | _ => True

/-- What holds of a trail of the manager of `owner` on `device`. -/
structure AccountedRun (owner : OwnerPubkey K) (device : DevicePubkey K)
    (trail : GroupTrail K T) : Prop where
  accounted : Accounted owner device trail
  records : trail.manager.RecordsValid
  groups : trail.manager.GroupsValid

namespace AccountedRun

variable {owner : OwnerPubkey K} {device : DevicePubkey K} {trail : GroupTrail K T}

omit [DecidableEq T] [Primitives K T] [InvitePrimitives K T] [GroupPayloadCodec K T] in
theorem new (owner : OwnerPubkey K) (device : DevicePubkey K) :
    AccountedRun (T := T) owner device (GroupTrail.new owner) :=
  ⟨Accounted.new owner device, (fun _ _ h => by cases h), GroupManager.groupsValid_new owner⟩

omit [DecidableEq T] [Primitives K T] [InvitePrimitives K T] [GroupPayloadCodec K T] in
theorem reaches {s t : GroupWorld K T} (h : AccountedRun owner device s.toGroupTrail)
    (howner : s.sessions.localOwnerPubkey = owner)
    (hdevice : s.sessions.localDevicePubkey = device) (hreach : s.Reaches t) :
    AccountedRun owner device t.toGroupTrail := by
  subst howner hdevice
  exact ⟨hreach.preserves (fun _ _ heffect hI => hI.effect heffect) h.accounted,
    hreach.preserves (I := fun trail => trail.manager.RecordsValid)
      (fun _ _ heffect hI => heffect.recordsValid hI) h.records,
    h.groups.of_groups_eq hreach.frame.groups⟩

/-- What an action does: the effects of a call, then perhaps a change of the groups, or
nothing to the own records but that some may go. -/
theorem act_cases (h : AccountedRun owner device trail) {action : GroupAction K T}
    (hruns : action.RunsOn owner device) :
    (∃ s t : GroupWorld K T, s.toGroupTrail = trail ∧ s.sessions.localOwnerPubkey = owner ∧
      s.sessions.localDevicePubkey = device ∧ s.Reaches t ∧
      (trail.act action).manager.localOwnerPubkey = t.manager.localOwnerPubkey ∧
      (trail.act action).manager.senderKeys = t.manager.senderKeys ∧
      (trail.act action).log = t.log) ∨
    (OwnKept owner device trail (trail.act action) ∧
      (trail.act action).manager.RecordsValid) := by
  have hsame : OwnKept owner device trail trail ∧ trail.manager.RecordsValid :=
    ⟨h.accounted.ownKept h.accounted.localOwner rfl, h.records⟩
  cases action with
  | perform now operation sessions rng =>
      obtain ⟨howner, hdevice⟩ := hruns
      obtain ⟨world, hreach, hend⟩ :=
        GroupM.performsFrom_perform now operation ⟨trail, sessions, rng⟩
      have hact : trail.act (.perform now operation sessions rng) =
          (Program.exec (GroupM.perform now operation) ⟨trail, sessions, rng⟩).2.toGroupTrail := rfl
      rw [hact]
      refine Or.inl ⟨⟨trail, sessions, rng⟩, world, rfl, howner, hdevice, hreach, ?_⟩
      obtain hend | ⟨-, record, -, hend⟩ := hend
      · rw [hend]
        exact ⟨rfl, rfl, rfl⟩
      · rw [hend]
        exact ⟨rfl, rfl, rfl⟩
  | payload senderOwner senderDevice payload =>
      have hact : trail.act (.payload senderOwner senderDevice payload) =
          ⟨trail.manager.after
            (trail.manager.handlePairwisePayloadInner senderOwner senderDevice payload),
            trail.log⟩ := rfl
      rw [hact]
      refine Or.inr ?_
      cases hresult : trail.manager.handlePairwisePayloadInner senderOwner senderDevice payload with
      | error error => exact hsame
      | ok outcome =>
          obtain ⟨event, next⟩ := outcome
          obtain rfl | ⟨snapshot, -, hsnapshot⟩ | ⟨dev, distribution, rfl, hdecode, hobserved⟩ :=
            GroupManager.handlePairwisePayloadInner_cases hresult
          · exact hsame
          · obtain rfl | ⟨record, -, rfl, -⟩ := GroupManager.handleMetadataSnapshot_cases hsnapshot
            · exact hsame
            · exact ⟨h.accounted.ownKept h.accounted.localOwner rfl, h.records⟩
          · refine ⟨h.accounted.ownKept_observe hobserved ?_, h.records.observe hobserved⟩
            rintro ⟨howner, hdevice⟩
            exact hruns distribution hdecode ⟨howner, congrArg some hdevice⟩
  | senderKeyMessage message =>
      have hact : trail.act (.senderKeyMessage message) =
          ⟨trail.manager.after (trail.manager.handleSenderKeyMessage message), trail.log⟩ := rfl
      rw [hact]
      refine Or.inr ?_
      cases hresult : trail.manager.handleSenderKeyMessage message with
      | error error => exact hsame
      | ok outcome =>
          obtain ⟨plan, happly⟩ := GroupManager.handleSenderKeyMessage_applies hresult
          exact ⟨h.accounted.ownKept_applySenderKeyReceivePlan happly,
            h.records.applySenderKeyReceivePlan happly⟩
  | applyPlan plan =>
      have hact : trail.act (.applyPlan plan) =
          ⟨trail.manager.after (trail.manager.applySenderKeyReceivePlan plan), trail.log⟩ := rfl
      rw [hact]
      refine Or.inr ?_
      cases hresult : trail.manager.applySenderKeyReceivePlan plan with
      | error error => exact hsame
      | ok outcome =>
          exact ⟨h.accounted.ownKept_applySenderKeyReceivePlan hresult,
            h.records.applySenderKeyReceivePlan hresult⟩
  | restore =>
      have hact : trail.act (.restore) = ⟨trail.manager.restart, trail.log⟩ := rfl
      rw [hact]
      have hsubset : ∀ id found, trail.manager.restart.senderKeys.get? id = some found →
          trail.manager.senderKeys.get? id = some found :=
        fun _ _ hfound => h.records.restart_get? hfound
      refine Or.inr ⟨⟨h.groups.restart_frame.2.trans h.accounted.localOwner, rfl, ?_, ?_⟩, ?_⟩
      · exact fun id record hrecord => h.accounted.secret id record (hsubset id record hrecord)
      · exact fun _ record hrecord => hsubset _ record hrecord
      · exact fun id record hrecord => h.records id record (hsubset id record hrecord)

private theorem accounted_act (h : AccountedRun owner device trail) {action : GroupAction K T}
    (hruns : action.RunsOn owner device) :
    Accounted owner device (trail.act action) ∧ (trail.act action).manager.RecordsValid := by
  obtain ⟨s, t, rfl, howner, hdevice, hreach, hlocal, hkeys, hlog⟩ | ⟨hkept, hrecords⟩ :=
    h.act_cases hruns
  · have hworld := h.reaches howner hdevice hreach
    generalize s.toGroupTrail.act action = next at hlocal hkeys hlog
    obtain ⟨⟨localOwnerPubkey, groups, senderKeys, senderEventIndex⟩, log⟩ := next
    cases hlocal
    cases hkeys
    cases hlog
    exact ⟨⟨hworld.accounted.localOwner, hworld.accounted.secret, hworld.accounted.held,
      hworld.accounted.repairs⟩, hworld.records⟩
  · exact ⟨h.accounted.of_ownKept hkept, hrecords⟩

theorem act (h : AccountedRun owner device trail) {action : GroupAction K T}
    (hruns : action.RunsOn owner device) : AccountedRun owner device (trail.act action) :=
  ⟨(h.accounted_act hruns).1, (h.accounted_act hruns).2,
    GroupTrail.act_groupsValid h.groups action⟩

theorem run (h : AccountedRun owner device trail) {actions : List (GroupAction K T)}
    (hruns : ∀ action ∈ actions, action.RunsOn owner device) :
    AccountedRun owner device (trail.run actions) := by
  induction actions generalizing trail with
  | nil => exact h
  | cons action rest ih =>
      exact ih (h.act (hruns action List.mem_cons_self))
        fun later hmem => hruns later (List.mem_cons_of_mem _ hmem)

/-- What the effects of calls keep, and what does not need all own records, holds after a
run. -/
theorem run_keeps {P : GroupTrail K T → Prop} (h : AccountedRun owner device trail)
    (heffect : ∀ trail next : GroupTrail K T, Accounted owner device trail →
      GroupEffect owner device trail next → P trail → P next)
    (hkept : ∀ trail next : GroupTrail K T, OwnKept owner device trail next → P trail → P next)
    {actions : List (GroupAction K T)} (hruns : ∀ action ∈ actions, action.RunsOn owner device)
    (hP : P trail) : P (trail.run actions) := by
  induction actions generalizing trail with
  | nil => exact hP
  | cons action rest ih =>
      have haction := hruns action List.mem_cons_self
      refine ih (h.act haction) (fun later hmem => hruns later (List.mem_cons_of_mem _ hmem)) ?_
      obtain ⟨s, t, rfl, howner, hdevice, hreach, hlocal, hkeys, hlog⟩ | ⟨hown, -⟩ :=
        h.act_cases haction
      · have hworld := h.reaches howner hdevice hreach
        subst howner hdevice
        have hkeep := hreach.preserves
          (I := fun trail => Accounted s.sessions.localOwnerPubkey s.sessions.localDevicePubkey
            trail ∧ P trail)
          (fun _ _ hstep hI => ⟨hI.1.effect hstep, heffect _ _ hI.1 hstep hI.2⟩)
          ⟨h.accounted, hP⟩
        refine hkept t.toGroupTrail _ ⟨?_, hlog, ?_, ?_⟩ hkeep.2
        · rw [hlocal]
          exact hworld.accounted.localOwner
        · rw [hkeys]
          exact hworld.accounted.secret
        · rw [hkeys]
          exact fun _ _ hrecord => hrecord
      · exact hkept trail _ hown hP

end AccountedRun

/-! The chain of a message. -/

omit [DecidableEq T] in
/-- What holds once the chain of a send is there, and is kept when the chain is handed to
members and to siblings, holds when the message is encrypted. -/
theorem GroupM.SendSteps.keeps {owner : OwnerPubkey K} {device : DevicePubkey K}
    {now : UnixSeconds} {group : GroupRecord K} {body : T} {s s₁ s₂ s₃ s₄ t : GroupWorld K T}
    {distribution : SenderKeyDistribution K} {message : GroupSenderKeyMessageEnvelope K T}
    (h : GroupM.SendSteps now group body s s₁ s₂ s₃ s₄ t distribution message)
    (hrun : AccountedRun owner device s.toGroupTrail)
    (howner : s.sessions.localOwnerPubkey = owner)
    (hdevice : s.sessions.localDevicePubkey = device) (P : GroupTrail K T → Prop)
    (hensured : s.Reaches s₁ → AccountedRun owner device s₁.toGroupTrail →
      GroupM.Ensured now ⟨group.groupId, owner, device⟩
        (s₁.manager.localSenderKeyHasRemovedRecipients group device) s₁ distribution
        s₂.toGroupTrail → P s₂.toGroupTrail)
    (hdistributed : ∀ (trail : GroupTrail K T) (recipients : List (OwnerPubkey K)),
      (∀ recipient ∈ recipients, recipient ∈ group.members) → P trail →
      P ((trail.address recipients (.senderKeyDistribution distribution)).onManager fun manager =>
        (manager.recordSenderKeyRepairSnapshot distribution.groupId device distribution
          recipients).markSenderKeyDistributionRecipients distribution.groupId device
            distribution.keyId recipients))
    (hshared : ∀ trail : GroupTrail K T, P trail →
      P (trail.address [owner] (.senderKeyDistribution distribution)))
    (hremembered : ∀ trail : GroupTrail K T, P trail →
      P (trail.onManager fun manager => manager.recordSenderKeyRepairSnapshot
        distribution.groupId device distribution [manager.localOwnerPubkey])) :
    s₁.sessions.localDevicePubkey = device ∧ P s₄.toGroupTrail := by
  obtain ⟨synced, hsync⟩ := h.synced
  obtain ⟨created, hensure⟩ := h.ensured
  obtain ⟨remote, hdistribute⟩ := h.distributed
  obtain ⟨sibling, hshare⟩ := h.shared
  have hreach₁ : s.Reaches s₁ := by
    have hlocal := GroupM.local_localSiblingPayload now group.metadataPayload s
    rw [show GroupM.localSiblingPayload now group.metadataPayload =
      GroupM.localSiblingSync now group from rfl, hsync] at hlocal
    exact hlocal
  have hrun₁ := hrun.reaches howner hdevice hreach₁
  have hdevice₁ : s₁.sessions.localDevicePubkey = device :=
    hreach₁.sessions.localDevicePubkey.trans hdevice
  rw [hdevice₁] at hensure hdistribute
  obtain ⟨hsessions₂, ⟨_, _, heq, hchain, -⟩ | ⟨⟨e, heq⟩, -⟩⟩ :=
    GroupM.ensureLocalSenderKeyRecord_cases hensure
  case inr => cases heq
  cases heq
  rw [GroupManager.localSenderKeyId, hrun₁.accounted.localOwner] at hchain
  have hP₂ := hensured hreach₁ hrun₁ hchain
  have hmembers : ∀ recipient ∈ s₂.manager.senderKeyDistributionRecipients group device
      distribution.keyId (group.remoteMembers s₂.manager.localOwnerPubkey),
      recipient ∈ group.members := by
    intro recipient hmem
    have hcandidate : recipient ∈ group.remoteMembers s₂.manager.localOwnerPubkey := by
      unfold GroupManager.senderKeyDistributionRecipients at hmem
      split at hmem
      · exact hmem
      · exact (List.mem_filter.mp hmem).1
    exact SortedSet.mem_toList.mp (List.mem_filter.mp hcandidate).1
  have hP₃ : s₂.sessions.SameOutside s₃.sessions ∧ P s₃.toGroupTrail := by
    unfold GroupM.distributeMissing at hdistribute
    split at hdistribute
    · cases hdistribute
      exact ⟨SessionManager.SameOutside.refl _, hP₂⟩
    · obtain ⟨hsessions₃, ⟨_, -, htrail⟩ | ⟨⟨e, heq⟩, -⟩⟩ :=
        GroupM.fanoutSenderKeyDistribution_cases hdistribute
      · rw [hsessions₂, hdevice₁] at htrail
        rw [htrail]
        exact ⟨hsessions₃, hdistributed _ _ hmembers hP₂⟩
      · cases heq
  unfold GroupM.localSiblingSenderKeyDistribution at hshare
  obtain ⟨sent, mid, hsend, hshare⟩ := Program.bind_eq_ok.mp hshare
  have howner₃ : s₃.sessions.localOwnerPubkey = owner := by
    rw [hP₃.1.localOwnerPubkey, hsessions₂, hreach₁.sessions.localOwnerPubkey]
    exact howner
  have hmid : mid.sessions.localDevicePubkey = device ∧ P mid.toGroupTrail := by
    have hpublished := GroupM.localSiblingPayload_published now
      (.senderKeyDistribution distribution) s₃
    rw [hsend] at hpublished
    have hdevice₃ : s₃.sessions.localDevicePubkey = device := by
      rw [hP₃.1.localDevicePubkey, hsessions₂]
      exact hdevice₁
    obtain hpublished | hpublished := hpublished
    · rw [hpublished.trail, List.append_nil]
      exact ⟨hpublished.sessions.localDevicePubkey.trans hdevice₃, hP₃.2⟩
    · rw [hpublished.trail, howner₃]
      exact ⟨hpublished.sessions.localDevicePubkey.trans hdevice₃, hshared _ hP₃.2⟩
  refine ⟨hdevice₁, ?_⟩
  cases hshare
  change P ⟨if _ then _ else mid.manager, mid.log⟩
  split
  · have hrecorded := hremembered _ hmid.2
    rw [← hmid.1] at hrecorded
    exact hrecorded
  · exact hmid.2

/-- A chain that only members hold, and that is the latest one. -/
structure Exclusive (group : GroupRecord K) (id : SenderKeyRecordId K) (keyId : Nat)
    (trail : GroupTrail K T) : Prop where
  latest : trail.manager.RecordAt id (fun record => record.latestKeyId = some keyId)
  heldBy : ∀ holder ∈ holders id keyId trail.log,
    holder = id.senderOwner ∨ holder ∈ group.members

namespace Exclusive

variable {group : GroupRecord K} {owner : OwnerPubkey K} {device : DevicePubkey K}

omit [DecidableEq T] [InvitePrimitives K T] [GroupPayloadCodec K T] in
theorem ensured {now : UnixSeconds} {s : GroupWorld K T}
    {distribution : SenderKeyDistribution K} {trail : GroupTrail K T}
    (haccounted : Accounted owner device s.toGroupTrail)
    (h : GroupM.Ensured now ⟨group.groupId, owner, device⟩
      (s.manager.localSenderKeyHasRemovedRecipients group device) s distribution trail) :
    Exclusive group ⟨group.groupId, owner, device⟩ distribution.keyId trail := by
  cases h with
  | @kept record keyId state hforce hrecord hlatest hstate =>
      refine ⟨⟨record, hrecord, hlatest⟩, ?_⟩
      intro holder hholder
      obtain rfl | ⟨owners, howners, hmem⟩ := haccounted.held group.groupId record hrecord keyId
        (Option.isSome_of_eq_some hstate) holder hholder
      · exact Or.inl rfl
      · exact Or.inr (haccounted.member_of_distributed hforce hrecord hlatest ⟨owners, howners, hmem⟩)
  | @rotated record opened keyId chainKey hopened =>
      refine ⟨⟨_, SortedMap.get?_insert_self _ _ _, rfl⟩, ?_⟩
      intro holder hholder
      exact absurd ⟨rfl, rfl⟩ (mem_holders_started hholder).2

omit [DecidableEq T] [Primitives K T] [InvitePrimitives K T] [GroupPayloadCodec K T] in
theorem distributed {id : SenderKeyRecordId K} {trail : GroupTrail K T}
    {recipients : List (OwnerPubkey K)} {distribution : SenderKeyDistribution K} {keyId : Nat}
    (h : Exclusive group id keyId trail)
    (hrecipients : ∀ recipient ∈ recipients, recipient ∈ group.members) :
    Exclusive group id keyId
      ((trail.address recipients (.senderKeyDistribution distribution)).onManager fun manager =>
        (manager.recordSenderKeyRepairSnapshot distribution.groupId device distribution
          recipients).markSenderKeyDistributionRecipients distribution.groupId device
            distribution.keyId recipients) := by
  refine ⟨(h.latest.recordSenderKeyRepairSnapshot (fun _ _ hlatest => hlatest) _ _ _
    _).markSenderKeyDistributionRecipients (fun _ _ _ hlatest => hlatest) _ _ _ _, ?_⟩
  intro holder hholder
  obtain hold | ⟨hmem, -⟩ := mem_holders_address hholder
  · exact h.heldBy holder hold
  · exact Or.inr (hrecipients holder hmem)

omit [DecidableEq T] [Primitives K T] [InvitePrimitives K T] [GroupPayloadCodec K T] in
theorem shared {id : SenderKeyRecordId K} {trail : GroupTrail K T}
    {distribution : SenderKeyDistribution K} {keyId : Nat} (h : Exclusive group id keyId trail) :
    Exclusive group id keyId
      (trail.address [id.senderOwner] (.senderKeyDistribution distribution)) := by
  refine ⟨h.latest, fun holder hholder => ?_⟩
  obtain hold | ⟨hmem, -⟩ := mem_holders_address hholder
  · exact h.heldBy holder hold
  · exact Or.inl (List.mem_singleton.mp hmem)

omit [DecidableEq T] [InvitePrimitives K T] in
/-- The message goes out on the latest chain. -/
theorem emitted {now : UnixSeconds} {s t : GroupWorld K T} {keyId : Nat} {body : T}
    {message : GroupSenderKeyMessageEnvelope K T}
    (h : Exclusive group ⟨group.groupId, owner, device⟩ keyId s.toGroupTrail)
    (hlocal : t.manager.localOwnerPubkey = owner)
    (hrun : Program.exec (GroupM.emitSenderKeyMessage now group device body) s =
      (.ok message, t)) :
    message.groupId = group.groupId ∧ message.keyId = keyId ∧ t.log = s.log := by
  obtain ⟨-, ⟨_, record, plan, secret, heq, hadvanced, -, hkey, hgroupId, -⟩ | ⟨⟨e, heq⟩, -⟩⟩ :=
    GroupM.emitSenderKeyMessage_cases hrun
  · cases heq
    generalize htrail : t.toGroupTrail = trail at hadvanced
    rw [htrail] at hlocal
    cases hadvanced with
    | mk hrecord hlatest hstate hplaintext hplan =>
        obtain ⟨found, hfound, hlatest'⟩ := h.latest
        change s.manager.localOwnerPubkey = owner at hlocal
        rw [GroupManager.localSenderKeyId, hlocal, hfound] at hrecord
        cases hrecord
        rw [hkey] at hlatest'
        exact ⟨hgroupId, Option.some.inj hlatest', rfl⟩
  · cases heq

end Exclusive

/-- In every run of the manager of a device, a sender-key message goes out on a chain that
has been handed only to owners that are members of the group at that time, and to the local
owner. -/
theorem message_chain_held_by_members (owner : OwnerPubkey K) (device : DevicePubkey K)
    (actions : List (GroupAction K T)) (hruns : ∀ action ∈ actions, action.RunsOn owner device)
    (now : UnixSeconds) (groupId : String) (body : T) (sessions : SessionManager K T)
    (rng : GroupRng K) (howner : sessions.localOwnerPubkey = owner)
    (hdevice : sessions.localDevicePubkey = device) (group : GroupRecord K)
    (hgroup : ((GroupTrail.new owner).run actions).manager.groups.get? groupId = some group)
    (prepared : GroupPreparedSend K T) (after : GroupWorld K T)
    (hsent : Program.exec (GroupM.sendMessage now groupId body)
      ⟨(GroupTrail.new owner).run actions, sessions, rng⟩ = (.ok prepared, after))
    (message : GroupSenderKeyMessageEnvelope K T)
    (hmessage : message ∈ prepared.remote.senderKeyMessages ∨
      message ∈ prepared.localSibling.senderKeyMessages) :
    message.groupId = groupId ∧
      ∀ holder ∈ holders ⟨groupId, owner, device⟩ message.keyId after.log,
        holder = owner ∨ holder ∈ group.members := by
  have hrun := (AccountedRun.new (T := T) owner device).run hruns
  generalize (GroupTrail.new (T := T) owner).run actions = trail at hrun hgroup hsent
  have hgroupId : group.groupId = groupId := hrun.groups.groupId groupId group hgroup
  obtain ⟨-, -, e, heq⟩ | ⟨-, -, hsent⟩ | ⟨-, -, hnone⟩ := GroupM.sendMessage_cases hgroup hsent
  · cases heq
  · obtain ⟨s₁, s₂, s₃, s₄, distribution, emitted, hsteps, hremote, hlocal⟩ :=
      GroupM.sendSenderKeyMessage_steps hsent
    have hemitted : message = emitted := by
      obtain hmem | hmem := hmessage
      · rw [hremote] at hmem
        exact List.mem_singleton.mp hmem
      · exact hlocal message hmem
    subst hemitted
    have hreach := GroupM.local_sendSenderKeyMessage now group body ⟨trail, sessions, rng⟩
    rw [hsent] at hreach
    have hlocalOwner : after.manager.localOwnerPubkey = owner :=
      hreach.frame.localOwnerPubkey.trans hrun.accounted.localOwner
    obtain ⟨hdevice₁, hchain⟩ := hsteps.keeps hrun howner hdevice
      (Exclusive group ⟨group.groupId, owner, device⟩ distribution.keyId)
      (fun _ hrun₁ hensured => Exclusive.ensured hrun₁.accounted hensured)
      (fun _ _ hrecipients hchain => hchain.distributed hrecipients)
      (fun _ hchain => hchain.shared)
      (fun _ hchain => ⟨hchain.latest.recordSenderKeyRepairSnapshot
        (fun _ _ hlatest => hlatest) _ _ _ _, hchain.heldBy⟩)
    obtain ⟨hgroupId', hkeyId, hlog⟩ := hchain.emitted hlocalOwner (hdevice₁ ▸ hsteps.emitted)
    rw [hkeyId, hlog, ← hgroupId]
    exact ⟨hgroupId', hchain.heldBy⟩
  · obtain ⟨hremote, hlocal⟩ := hnone prepared rfl
    rw [hremote, hlocal] at hmessage
    obtain hmem | hmem := hmessage
    · cases hmem
    · cases hmem

end

namespace GroupWire

/-- The second message of owner 1 goes out on the chain that owner 2 was handed for the first
one. -/
theorem second_message_chain_held_by_member :
    ∃ prepared after message,
      Program.exec (GroupM.sendMessage 9 "group" (.bytes "again"))
          ⟨(GroupTrail.new (exampleOwner 1)).run senderKeyActions, exampleSessions 1,
            exampleRng 20 ""⟩ = (.ok prepared, after) ∧
      message ∈ prepared.remote.senderKeyMessages ∧
      exampleOwner 2 ∈
        holders ⟨"group", exampleOwner 1, exampleDevice 1⟩ message.keyId after.log ∧
      ∀ holder ∈ holders ⟨"group", exampleOwner 1, exampleDevice 1⟩ message.keyId after.log,
        holder = exampleOwner 1 ∨ holder ∈ SortedSet.ofList [exampleOwner 1, exampleOwner 2] := by
  have hruns : ∀ action ∈ senderKeyActions,
      action.RunsOn (exampleOwner 1) (exampleDevice 1) := by
    refine List.forall_mem_cons.mpr ⟨?_, List.forall_mem_cons.mpr ⟨⟨rfl, rfl⟩, ?_⟩⟩
    · exact fun _ _ hself => absurd hself.1 (by decide +kernel)
    · exact fun _ hmem => by cases hmem
  have hgroup : ((GroupTrail.new (exampleOwner 1)).run senderKeyActions).manager.groups.get?
      "group" = some { exampleRecord "team" 1 with
        createdBy := exampleOwner 2, admins := SortedSet.ofList [exampleOwner 2] } := by
    decide +kernel
  have hcheck : (match Program.exec (GroupM.sendMessage 9 "group" (.bytes "again"))
      ⟨(GroupTrail.new (exampleOwner 1)).run senderKeyActions, exampleSessions 1,
        exampleRng 20 ""⟩ with
      | (.ok prepared, after) => prepared.remote.senderKeyMessages.any (fun message =>
          exampleOwner 2 ∈
            holders ⟨"group", exampleOwner 1, exampleDevice 1⟩ message.keyId after.log)
      | (.error _, _) => false) = true := by
    decide +kernel
  generalize hsent : Program.exec (GroupM.sendMessage 9 "group" (.bytes "again"))
    ⟨(GroupTrail.new (exampleOwner 1)).run senderKeyActions, exampleSessions 1,
      exampleRng 20 ""⟩ = outcome at hcheck
  obtain ⟨_ | prepared, after⟩ := outcome
  · cases hcheck
  · obtain ⟨message, hmem, hholds⟩ := List.any_eq_true.mp hcheck
    refine ⟨prepared, after, message, rfl, hmem, of_decide_eq_true hholds, ?_⟩
    exact (message_chain_held_by_members (exampleOwner 1) (exampleDevice 1) senderKeyActions
      hruns 9 "group" (.bytes "again") (exampleSessions 1) (exampleRng 20 "") rfl rfl _ hgroup
      prepared after hsent message (Or.inl hmem)).2

end GroupWire

end NostrDoubleRatchet
