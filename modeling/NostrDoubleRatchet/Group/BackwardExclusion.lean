import NostrDoubleRatchet.Group.ForwardExclusion

/-!
Who can be handed the chain of a message after it went out. A distribution states where its
chain stands, so only the repair snapshots that were recorded before a message can give its
key away; their recipients were members of the group when the message went out. Key ids are
drawn at random, and an id that is drawn again names another chain.
-/

namespace NostrDoubleRatchet

variable {K T : Type} [LinearOrder K]

/-- The entry starts a chain under the key id. -/
def GroupLogEntry.starts (id : SenderKeyRecordId K) (keyId : Nat) : GroupLogEntry K T → Bool
  | .started id' keyId' => decide (id' = id ∧ keyId' = keyId)
  | _ => false

/-- The entries before another chain is started under the key id. -/
def untilRestarted (id : SenderKeyRecordId K) (keyId : Nat) (entries : List (GroupLogEntry K T)) :
    List (GroupLogEntry K T) :=
  entries.takeWhile (fun entry => !entry.starts id keyId)

theorem mem_untilRestarted_append {id : SenderKeyRecordId K} {keyId : Nat}
    {first second : List (GroupLogEntry K T)} {entry : GroupLogEntry K T}
    (h : entry ∈ untilRestarted id keyId (first ++ second)) :
    entry ∈ untilRestarted id keyId first ∨
      (∀ e ∈ first, e.starts id keyId = false) ∧ entry ∈ second := by
  unfold untilRestarted at h ⊢
  induction first with
  | nil => exact Or.inr ⟨(fun e he => by cases he), (List.takeWhile_sublist _).mem h⟩
  | cons head rest ih =>
      rw [List.cons_append, List.takeWhile_cons] at h
      rw [List.takeWhile_cons]
      cases hhead : head.starts id keyId with
      | true =>
          rw [hhead] at h
          cases h
      | false =>
          rw [hhead] at h
          rcases List.mem_cons.mp h with rfl | hmem
          · exact Or.inl List.mem_cons_self
          · refine (ih hmem).imp (fun hrest => List.mem_cons_of_mem _ hrest) fun hnext => ?_
            exact ⟨List.forall_mem_cons.mpr ⟨hhead, hnext.1⟩, hnext.2⟩

/-- The distribution was handed out before a chain was started under the key id, so it is not
one of that chain. -/
def HandedBeforeStart (id : SenderKeyRecordId K) (keyId : Nat) (log : List (GroupLogEntry K T))
    (distribution : SenderKeyDistribution K) : Prop :=
  ∃ earlier later recipient, log = earlier ++ .started id keyId :: later ∧
    .addressed recipient (.senderKeyDistribution distribution) ∈ earlier

/-- Who may be handed a distribution that leads to a message of the latest chain in `log`: the
local owner and the members at the time of the message. -/
def Entitled (id : SenderKeyRecordId K) (keyId : Nat) (members : SortedSet (OwnerPubkey K))
    (log : List (GroupLogEntry K T)) (holder : OwnerPubkey K)
    (distribution : SenderKeyDistribution K) : Prop :=
  holder = id.senderOwner ∨ holder ∈ members ∨ HandedBeforeStart id keyId log distribution

namespace GroupManager

theorem modifySenderKey_get? {manager : GroupManager K} {id' id : SenderKeyRecordId K}
    {f : SenderKeyRecord K → SenderKeyRecord K} {record' : SenderKeyRecord K}
    (h : (manager.modifySenderKey id' f).senderKeys.get? id = some record') :
    ∃ record, manager.senderKeys.get? id = some record ∧
      (record' = record ∨ id' = id ∧ record' = f record) := by
  unfold modifySenderKey at h
  split at h
  · exact ⟨record', h, Or.inl rfl⟩
  · rename_i record hrecord
    change (manager.senderKeys.insert id' (f record)).get? id = some record' at h
    rw [SortedMap.get?_insert] at h
    split at h
    · rename_i hid
      cases h
      rw [hid] at hrecord
      exact ⟨record, hrecord, Or.inr ⟨hid, rfl⟩⟩
    · exact ⟨record', h, Or.inl rfl⟩

/-- Recording a snapshot adds at most that snapshot to the own record. -/
theorem recordSenderKeyRepairSnapshot_get? {manager : GroupManager K} {groupId : String}
    {device : DevicePubkey K} {distribution : SenderKeyDistribution K}
    {recipients : List (OwnerPubkey K)} {id : SenderKeyRecordId K} {record' : SenderKeyRecord K}
    (h : (manager.recordSenderKeyRepairSnapshot groupId device distribution
      recipients).senderKeys.get? id = some record') :
    ∃ record, manager.senderKeys.get? id = some record ∧ record'.states = record.states ∧
      ∀ snapshot ∈ record'.repairSnapshots, snapshot ∈ record.repairSnapshots ∨
        manager.localSenderKeyId groupId device = id ∧ snapshot.distribution = distribution ∧
          ∀ recipient ∈ snapshot.recipients, recipient ∈ recipients := by
  unfold recordSenderKeyRepairSnapshot at h
  split at h
  · exact ⟨record', h, rfl, fun snapshot hmem => Or.inl hmem⟩
  · obtain ⟨record, hrecord, rfl | ⟨hid, rfl⟩⟩ := modifySenderKey_get? h
    · exact ⟨record', hrecord, rfl, fun snapshot hmem => Or.inl hmem⟩
    · obtain ⟨snapshots, heq, hsnapshots⟩ := record.recordRepairSnapshot_eq distribution recipients
      rw [heq]
      exact ⟨record, hrecord, rfl, fun snapshot hmem =>
        (hsnapshots snapshot hmem).imp_right fun hnew => ⟨hid, hnew⟩⟩

theorem markSenderKeyDistributionRecipients_get? {manager : GroupManager K} {groupId : String}
    {device : DevicePubkey K} {keyId : Nat} {recipients : List (OwnerPubkey K)}
    {id : SenderKeyRecordId K} {record' : SenderKeyRecord K}
    (h : (manager.markSenderKeyDistributionRecipients groupId device keyId
      recipients).senderKeys.get? id = some record') :
    ∃ record, manager.senderKeys.get? id = some record ∧ record'.states = record.states ∧
      record'.repairSnapshots = record.repairSnapshots := by
  unfold markSenderKeyDistributionRecipients at h
  split at h
  · exact ⟨record', h, rfl, rfl⟩
  · obtain ⟨record, hrecord, rfl | ⟨-, rfl⟩⟩ := modifySenderKey_get? h
    · exact ⟨record', hrecord, rfl, rfl⟩
    · exact ⟨record, hrecord, rfl, rfl⟩

end GroupManager

/-- The chain is past message `n`, and the repair snapshots that are not are for owners that
may have them. -/
structure SenderKeyRecord.Passed (id : SenderKeyRecordId K) (keyId n : Nat)
    (members : SortedSet (OwnerPubkey K)) (log : List (GroupLogEntry K T))
    (record : SenderKeyRecord K) : Prop where
  state : ∀ state, record.states.get? keyId = some state → n < state.iteration
  repairs : ∀ snapshot ∈ record.repairSnapshots, snapshot.distribution.keyId = keyId →
    snapshot.distribution.iteration ≤ n →
      ∀ recipient ∈ snapshot.recipients,
        Entitled id keyId members log recipient snapshot.distribution

/-- What holds of a trail after message `n` of the latest chain in `log` went out to the
members. -/
structure Sealed (id : SenderKeyRecordId K) (keyId n : Nat) (members : SortedSet (OwnerPubkey K))
    (log handed : List (GroupLogEntry K T)) (trail : GroupTrail K T) : Prop where
  log_eq : trail.log = log ++ handed
  handedTo : ∀ holder distribution,
    .addressed holder (.senderKeyDistribution distribution) ∈ untilRestarted id keyId handed →
    distribution.groupId = id.groupId → distribution.keyId = keyId →
    distribution.iteration ≤ n → Entitled id keyId members log holder distribution
  record : (∀ entry ∈ handed, entry.starts id keyId = false) →
    ∀ record, trail.manager.senderKeys.get? id = some record →
      record.Passed id keyId n members log

namespace Sealed

variable {id : SenderKeyRecordId K} {keyId n : Nat} {members : SortedSet (OwnerPubkey K)}
  {log handed : List (GroupLogEntry K T)} {trail next : GroupTrail K T}

/-- The trail gets entries. -/
theorem append (h : Sealed id keyId n members log handed trail)
    {entries : List (GroupLogEntry K T)} (hlog : next.log = trail.log ++ entries)
    (hhanded : (∀ entry ∈ handed, entry.starts id keyId = false) →
      ∀ holder distribution, .addressed holder (.senderKeyDistribution distribution) ∈ entries →
      distribution.groupId = id.groupId → distribution.keyId = keyId →
      distribution.iteration ≤ n → Entitled id keyId members log holder distribution)
    (hrecord : (∀ entry ∈ handed ++ entries, entry.starts id keyId = false) →
      ∀ record, next.manager.senderKeys.get? id = some record →
        record.Passed id keyId n members log) :
    Sealed id keyId n members log (handed ++ entries) next := by
  refine ⟨?_, ?_, hrecord⟩
  · rw [hlog, h.log_eq, List.append_assoc]
  · intro holder distribution hmem
    rcases mem_untilRestarted_append hmem with hold | ⟨hfresh, hnew⟩
    · exact h.handedTo holder distribution hold
    · exact hhanded hfresh holder distribution hnew

/-- Only commands are addressed, and the records stay. -/
theorem address (h : Sealed id keyId n members log handed trail)
    (owners : List (OwnerPubkey K)) (command : GroupPairwiseCommand K T)
    (hhanded : (∀ entry ∈ handed, entry.starts id keyId = false) → ∀ holder ∈ owners,
      ∀ distribution, command = .senderKeyDistribution distribution →
      distribution.groupId = id.groupId → distribution.keyId = keyId →
      distribution.iteration ≤ n → Entitled id keyId members log holder distribution) :
    Sealed id keyId n members log
      (handed ++ owners.map (GroupLogEntry.addressed · command)) (trail.address owners command) := by
  refine h.append rfl ?_ ?_
  · intro hfresh holder distribution hmem
    obtain ⟨owner, howner, heq⟩ := List.mem_map.mp hmem
    cases heq
    exact hhanded hfresh holder howner distribution rfl
  · intro hfresh
    exact h.record fun entry hmem => hfresh entry (List.mem_append_left _ hmem)

/-- The own record gives its repair snapshots only to entitled owners. -/
theorem repaired (h : Sealed id keyId n members log handed trail) {device : DevicePubkey K}
    (haccounted : Accounted id.senderOwner device trail) (hdevice : id.senderDevice = device)
    {requester : OwnerPubkey K} {other : SenderKeyRecordId K} {record : SenderKeyRecord K}
    {snapshot : GroupSenderKeyRepairSnapshot K}
    (howner : other.senderOwner = trail.manager.localOwnerPubkey)
    (hrecord : trail.manager.senderKeys.get? other = some record)
    (hsecret : record.senderEventSecretKey.isSome)
    (hsnapshot : snapshot ∈ record.repairSnapshots) (hrecipient : requester ∈ snapshot.recipients) :
    Sealed id keyId n members log
      (handed ++ [requester].map
        (GroupLogEntry.addressed · (.senderKeyDistribution snapshot.distribution)))
      (trail.address [requester] (.senderKeyDistribution snapshot.distribution)) := by
  refine h.address _ _ fun hfresh holder hholder distribution heq hgroup hkey hiteration => ?_
  cases heq
  rw [List.mem_singleton] at hholder
  subst hholder
  rw [haccounted.localOwner] at howner
  have hown : other = ⟨other.groupId, id.senderOwner, device⟩ := by
    rw [← howner, ← (haccounted.secret other record hrecord howner).mp hsecret]
  rw [hown] at hrecord
  have hsame := (haccounted.repairs other.groupId record hrecord snapshot hsnapshot).1
  rw [hgroup] at hsame
  rw [← hsame, ← hdevice] at hrecord
  exact (h.record hfresh record hrecord).repairs snapshot hsnapshot hkey hiteration holder
    hrecipient

theorem effect (h : Sealed id keyId n members log handed trail) {device : DevicePubkey K}
    (haccounted : Accounted id.senderOwner device trail) (hdevice : id.senderDevice = device)
    (heffect : GroupEffect id.senderOwner device trail next) :
    ∃ handed', Sealed id keyId n members log handed' next := by
  have hid : ∀ groupId, trail.localId groupId device = ⟨groupId, id.senderOwner, device⟩ := by
    intro groupId
    rw [GroupTrail.localId, GroupManager.localSenderKeyId, haccounted.localOwner]
  have hlocal : ∀ groupId, trail.localId groupId device = id ↔ groupId = id.groupId := by
    intro groupId
    rw [hid, ← hdevice]
    exact ⟨fun heq => congrArg SenderKeyRecordId.groupId heq, fun heq => by rw [heq]⟩
  have hkept : ∀ {entries : List (GroupLogEntry K T)},
      (∀ entry ∈ handed ++ entries, entry.starts id keyId = false) →
      ∀ record, trail.manager.senderKeys.get? id = some record →
        record.Passed id keyId n members log :=
    fun hfresh => h.record fun entry hmem => hfresh entry (List.mem_append_left _ hmem)
  cases heffect with
  | announced owners command hcommand =>
      exact ⟨_, h.address owners command fun _ _ _ distribution heq =>
        absurd heq (hcommand distribution)⟩
  | shared command =>
      exact ⟨_, h.address [id.senderOwner] command fun _ holder hholder _ _ _ _ _ =>
        Or.inl (List.mem_singleton.mp hholder)⟩
  | created groupId pubkey secret habsent =>
      refine ⟨_, h.append rfl ?_ ?_⟩
      · intro _ holder distribution hmem
        cases List.mem_singleton.mp hmem
      · intro hfresh record hrecord
        change (trail.manager.senderKeys.insert _ _).get? id = some record at hrecord
        rw [SortedMap.get?_insert] at hrecord
        split at hrecord
        · cases hrecord
          refine ⟨fun state hstate => ?_, fun snapshot hmem => ?_⟩
          · cases hstate
          · cases hmem
        · exact hkept hfresh record hrecord
  | started groupId record distribution hrecord =>
      refine ⟨_, h.append rfl ?_ ?_⟩
      · intro _ holder distribution hmem
        cases List.mem_singleton.mp hmem
      · intro hfresh record' hrecord'
        change (trail.manager.senderKeys.insert _ _).get? id = some record' at hrecord'
        rw [SortedMap.get?_insert] at hrecord'
        split at hrecord'
        · rename_i hown
          cases hrecord'
          rw [hown] at hrecord
          have hpassed := hkept hfresh record hrecord
          -- The chain that starts has another key id.
          have hother : distribution.keyId ≠ keyId := by
            intro hkey
            have hstarts := hfresh (.started (trail.localId groupId device) distribution.keyId)
              (List.mem_append_right _ (List.mem_singleton.mpr rfl))
            rw [GroupLogEntry.starts, hown, hkey] at hstarts
            simp at hstarts
          refine ⟨fun state hstate => hpassed.state state ?_, hpassed.repairs⟩
          exact (SortedMap.get?_insert_ne _ _ hother).symm.trans hstate
        · exact hkept hfresh record' hrecord'
  | distributed recipients distribution hcurrent =>
      obtain ⟨record, state, hrecord, hstate, hiteration⟩ := hcurrent
      have hlater : (∀ entry ∈ handed, entry.starts id keyId = false) →
          distribution.groupId = id.groupId → distribution.keyId = keyId →
          n < distribution.iteration := by
        intro hfresh hgroup hkey
        rw [(hlocal _).mpr hgroup] at hrecord
        rw [hkey] at hstate
        rw [hiteration]
        exact (h.record hfresh record hrecord).state state hstate
      refine ⟨_, h.append rfl ?_ ?_⟩
      · intro hfresh holder found hmem hgroup hkey hle
        obtain ⟨recipient, -, heq⟩ := List.mem_map.mp hmem
        cases heq
        exact absurd hle (not_le.mpr (hlater hfresh hgroup hkey))
      · intro hfresh record' hrecord'
        obtain ⟨marked, hmarked, hstates', hsnapshots'⟩ :=
          GroupManager.markSenderKeyDistributionRecipients_get? hrecord'
        obtain ⟨before, hbefore, hstates, hsnapshots⟩ :=
          GroupManager.recordSenderKeyRepairSnapshot_get? hmarked
        have hpassed := hkept hfresh before hbefore
        refine ⟨fun state hget => hpassed.state state (by rwa [hstates', hstates] at hget), ?_⟩
        intro snapshot hmem hkey hle
        rw [hsnapshots'] at hmem
        rcases hsnapshots snapshot hmem with hold | ⟨hown, rfl, -⟩
        · exact hpassed.repairs snapshot hold hkey hle
        · exact absurd hle (not_le.mpr (hlater
            (fun entry hmem => hfresh entry (List.mem_append_left _ hmem))
            ((hlocal _).mp hown) hkey))
  | remembered distribution =>
      refine ⟨_, h.append (List.append_nil _).symm ?_ ?_⟩
      · intro _ holder found hmem
        cases hmem
      · intro hfresh record' hrecord'
        obtain ⟨before, hbefore, hstates, hsnapshots⟩ :=
          GroupManager.recordSenderKeyRepairSnapshot_get? hrecord'
        have hpassed := hkept hfresh before hbefore
        refine ⟨fun state hget => hpassed.state state (by rwa [hstates] at hget), ?_⟩
        intro snapshot hmem hkey hle recipient hrecipient
        rcases hsnapshots snapshot hmem with hold | ⟨-, -, hrecipients⟩
        · exact hpassed.repairs snapshot hold hkey hle recipient hrecipient
        · left
          rw [← haccounted.localOwner]
          exact List.mem_singleton.mp (hrecipients recipient hrecipient)
  | repaired requester other record snapshot howner hrecord hsecret hsnapshot hrecipient =>
      exact ⟨_, h.repaired haccounted hdevice howner hrecord hsecret hsnapshot hrecipient⟩
  | emitted groupId record keyId' state advanced hrecord hlatest hstate hnext hiteration =>
      refine ⟨_, h.append (List.append_nil _).symm ?_ ?_⟩
      · intro _ holder found hmem
        cases hmem
      · intro hfresh record' hrecord'
        change (trail.manager.senderKeys.insert _ _).get? id = some record' at hrecord'
        rw [SortedMap.get?_insert] at hrecord'
        split at hrecord'
        · rename_i hown
          cases hrecord'
          rw [hown] at hrecord
          have hpassed := hkept hfresh record hrecord
          refine ⟨fun state' hget => ?_, hpassed.repairs⟩
          change (record.states.insert keyId' advanced).get? keyId = some state' at hget
          rw [SortedMap.get?_insert] at hget
          split at hget
          · rename_i hkey
            cases hget
            rw [hkey] at hstate
            exact (hpassed.state state hstate).trans_le hiteration
          · exact hpassed.state state' hget
        · exact hkept hfresh record' hrecord'

/-- Some own records may go. -/
theorem of_ownKept (h : Sealed id keyId n members log handed trail) {device : DevicePubkey K}
    (hdevice : id.senderDevice = device) (hkept : OwnKept id.senderOwner device trail next) :
    Sealed id keyId n members log handed next := by
  refine ⟨hkept.log.trans h.log_eq, h.handedTo, fun hfresh record hrecord => ?_⟩
  refine h.record hfresh record ?_
  subst hdevice
  exact hkept.own id.groupId record hrecord

end Sealed

/-- The repair snapshots of the own records are for the owner itself, or their distributions
were handed out. -/
def Recorded (owner : OwnerPubkey K) (device : DevicePubkey K) (trail : GroupTrail K T) : Prop :=
  ∀ groupId record, trail.manager.senderKeys.get? ⟨groupId, owner, device⟩ = some record →
    ∀ snapshot ∈ record.repairSnapshots, ∀ recipient ∈ snapshot.recipients,
      recipient = owner ∨
        ∃ holder, .addressed holder (.senderKeyDistribution snapshot.distribution) ∈ trail.log

namespace Recorded

variable {owner : OwnerPubkey K} {device : DevicePubkey K} {trail next : GroupTrail K T}

theorem grow (h : Recorded owner device trail) (hlog : trail.log ⊆ next.log)
    (hsnapshots : ∀ groupId record',
      next.manager.senderKeys.get? ⟨groupId, owner, device⟩ = some record' →
      ∀ snapshot ∈ record'.repairSnapshots,
        (∃ record, trail.manager.senderKeys.get? ⟨groupId, owner, device⟩ = some record ∧
          snapshot ∈ record.repairSnapshots) ∨
        ∀ recipient ∈ snapshot.recipients, recipient = owner ∨
          ∃ holder, .addressed holder (.senderKeyDistribution snapshot.distribution) ∈ next.log) :
    Recorded owner device next := by
  intro groupId record' hrecord' snapshot hmem recipient hrecipient
  rcases hsnapshots groupId record' hrecord' snapshot hmem with ⟨record, hrecord, hold⟩ | hnew
  · refine (h groupId record hrecord snapshot hold recipient hrecipient).imp_right ?_
    rintro ⟨holder, haddressed⟩
    exact ⟨holder, hlog haddressed⟩
  · exact hnew recipient hrecipient

theorem effect (h : Recorded owner device trail) (haccounted : Accounted owner device trail)
    (heffect : GroupEffect owner device trail next) : Recorded owner device next := by
  have hgrow : ∀ entries : List (GroupLogEntry K T), trail.log ⊆ trail.log ++ entries :=
    fun entries => List.subset_append_left _ _
  cases heffect with
  | announced owners command hcommand =>
      exact h.grow (hgrow _) fun _ record hrecord _ hmem => Or.inl ⟨record, hrecord, hmem⟩
  | shared command =>
      exact h.grow (hgrow _) fun _ record hrecord _ hmem => Or.inl ⟨record, hrecord, hmem⟩
  | created groupId pubkey secret habsent =>
      refine h.grow (hgrow _) fun other record' hrecord' snapshot hmem => ?_
      change (trail.manager.senderKeys.insert _ _).get? _ = some record' at hrecord'
      rw [SortedMap.get?_insert] at hrecord'
      split at hrecord'
      · cases hrecord'
        cases hmem
      · exact Or.inl ⟨record', hrecord', hmem⟩
  | started groupId record distribution hrecord =>
      refine h.grow (hgrow _) fun other record' hrecord' snapshot hmem => ?_
      change (trail.manager.senderKeys.insert _ _).get? _ = some record' at hrecord'
      rw [SortedMap.get?_insert] at hrecord'
      split at hrecord'
      · rename_i hown
        cases hrecord'
        rw [hown] at hrecord
        exact Or.inl ⟨record, hrecord, hmem⟩
      · exact Or.inl ⟨record', hrecord', hmem⟩
  | distributed recipients distribution hcurrent =>
      refine h.grow (hgrow _) fun other record' hrecord' snapshot hmem => ?_
      obtain ⟨marked, hmarked, -, hsnapshots'⟩ :=
        GroupManager.markSenderKeyDistributionRecipients_get? hrecord'
      obtain ⟨before, hbefore, -, hsnapshots⟩ :=
        GroupManager.recordSenderKeyRepairSnapshot_get? hmarked
      rw [hsnapshots'] at hmem
      rcases hsnapshots snapshot hmem with hold | ⟨-, rfl, hrecipients⟩
      · exact Or.inl ⟨before, hbefore, hold⟩
      · exact Or.inr fun recipient hrecipient => Or.inr ⟨recipient, List.mem_append_right _
          (List.mem_map_of_mem (hrecipients recipient hrecipient))⟩
  | remembered distribution =>
      refine h.grow (fun _ hmem => hmem) fun other record' hrecord' snapshot hmem => ?_
      obtain ⟨before, hbefore, -, hsnapshots⟩ :=
        GroupManager.recordSenderKeyRepairSnapshot_get? hrecord'
      rcases hsnapshots snapshot hmem with hold | ⟨-, -, hrecipients⟩
      · exact Or.inl ⟨before, hbefore, hold⟩
      · refine Or.inr fun recipient hrecipient => Or.inl ?_
        rw [← haccounted.localOwner]
        exact List.mem_singleton.mp (hrecipients recipient hrecipient)
  | repaired requester other record snapshot howner hrecord hsecret hsnapshot hrecipient =>
      exact h.grow (hgrow _) fun _ record hrecord _ hmem => Or.inl ⟨record, hrecord, hmem⟩
  | emitted groupId record keyId state advanced hrecord hlatest hstate hnext hiteration =>
      refine h.grow (fun _ hmem => hmem) fun other record' hrecord' snapshot hmem => ?_
      change (trail.manager.senderKeys.insert _ _).get? _ = some record' at hrecord'
      rw [SortedMap.get?_insert] at hrecord'
      split at hrecord'
      · rename_i hown
        cases hrecord'
        rw [hown] at hrecord
        exact Or.inl ⟨record, hrecord, hmem⟩
      · exact Or.inl ⟨record', hrecord', hmem⟩

theorem of_ownKept (h : Recorded owner device trail) (hkept : OwnKept owner device trail next) :
    Recorded owner device next :=
  h.grow (fun _ hmem => by rwa [hkept.log]) fun groupId record hrecord _ hmem =>
    Or.inl ⟨record, hkept.own groupId record hrecord, hmem⟩

end Recorded

/-! A message goes out. -/

omit [LinearOrder K] in
theorem HandedBeforeStart.append {id : SenderKeyRecordId K} {keyId : Nat}
    {log : List (GroupLogEntry K T)} {distribution : SenderKeyDistribution K}
    (h : HandedBeforeStart id keyId log distribution) (entries : List (GroupLogEntry K T)) :
    HandedBeforeStart id keyId (log ++ entries) distribution := by
  obtain ⟨earlier, later, recipient, rfl, hmem⟩ := h
  exact ⟨earlier, later ++ entries, recipient, by simp, hmem⟩

/-- The repair snapshots of the chain are for owners that may have them. -/
def Closed (id : SenderKeyRecordId K) (keyId : Nat) (members : SortedSet (OwnerPubkey K))
    (trail : GroupTrail K T) : Prop :=
  ∀ record, trail.manager.senderKeys.get? id = some record →
    ∀ snapshot ∈ record.repairSnapshots, snapshot.distribution.keyId = keyId →
      ∀ recipient ∈ snapshot.recipients,
        Entitled id keyId members trail.log recipient snapshot.distribution

namespace Closed

variable {id : SenderKeyRecordId K} {keyId : Nat} {members : SortedSet (OwnerPubkey K)}
  {trail next : GroupTrail K T}

theorem grow (h : Closed id keyId members trail) {entries : List (GroupLogEntry K T)}
    (hlog : next.log = trail.log ++ entries)
    (hsnapshots : ∀ record', next.manager.senderKeys.get? id = some record' →
      ∀ snapshot ∈ record'.repairSnapshots,
        (∃ record, trail.manager.senderKeys.get? id = some record ∧
          snapshot ∈ record.repairSnapshots) ∨
        ∀ recipient ∈ snapshot.recipients, recipient = id.senderOwner ∨ recipient ∈ members) :
    Closed id keyId members next := by
  intro record' hrecord' snapshot hmem hkey recipient hrecipient
  rw [hlog]
  rcases hsnapshots record' hrecord' snapshot hmem with ⟨record, hrecord, hold⟩ | hnew
  · exact (h record hrecord snapshot hold hkey recipient hrecipient).imp_right
      fun hentitled => hentitled.imp_right fun hbefore => hbefore.append entries
  · exact (hnew recipient hrecipient).imp_right Or.inl

theorem distributed (h : Closed id keyId members trail) {device : DevicePubkey K}
    {distribution : SenderKeyDistribution K} {recipients : List (OwnerPubkey K)}
    (hrecipients : ∀ recipient ∈ recipients, recipient ∈ members) :
    Closed id keyId members
      ((trail.address recipients (.senderKeyDistribution distribution)).onManager fun manager =>
        (manager.recordSenderKeyRepairSnapshot distribution.groupId device distribution
          recipients).markSenderKeyDistributionRecipients distribution.groupId device
            distribution.keyId recipients) := by
  refine h.grow rfl fun record' hrecord' snapshot hmem => ?_
  obtain ⟨marked, hmarked, -, hsnapshots'⟩ :=
    GroupManager.markSenderKeyDistributionRecipients_get? hrecord'
  obtain ⟨before, hbefore, -, hsnapshots⟩ :=
    GroupManager.recordSenderKeyRepairSnapshot_get? hmarked
  rw [hsnapshots'] at hmem
  rcases hsnapshots snapshot hmem with hold | ⟨-, -, hnew⟩
  · exact Or.inl ⟨before, hbefore, hold⟩
  · exact Or.inr fun recipient hrecipient =>
      Or.inr (hrecipients recipient (hnew recipient hrecipient))

theorem remembered (h : Closed id keyId members trail) {device : DevicePubkey K}
    {distribution : SenderKeyDistribution K}
    (hlocal : trail.manager.localOwnerPubkey = id.senderOwner) :
    Closed id keyId members (trail.onManager fun manager =>
      manager.recordSenderKeyRepairSnapshot distribution.groupId device distribution
        [manager.localOwnerPubkey]) := by
  refine h.grow (List.append_nil _).symm fun record' hrecord' snapshot hmem => ?_
  obtain ⟨before, hbefore, -, hsnapshots⟩ :=
    GroupManager.recordSenderKeyRepairSnapshot_get? hrecord'
  rcases hsnapshots snapshot hmem with hold | ⟨-, -, hnew⟩
  · exact Or.inl ⟨before, hbefore, hold⟩
  · refine Or.inr fun recipient hrecipient => Or.inl ?_
    rw [← hlocal]
    exact List.mem_singleton.mp (hnew recipient hrecipient)

end Closed

section

variable [DecidableEq T] [Primitives K T] [InvitePrimitives K T] [GroupPayloadCodec K T]

omit [DecidableEq T] [InvitePrimitives K T] [GroupPayloadCodec K T] in
/-- The chain a send uses was handed to members only, or has just been started. -/
theorem Closed.ensured {group : GroupRecord K} {owner : OwnerPubkey K} {device : DevicePubkey K}
    {now : UnixSeconds} {s : GroupWorld K T} {distribution : SenderKeyDistribution K}
    {trail : GroupTrail K T} (haccounted : Accounted owner device s.toGroupTrail)
    (hrecorded : Recorded owner device s.toGroupTrail)
    (h : GroupM.Ensured now ⟨group.groupId, owner, device⟩
      (s.manager.localSenderKeyHasRemovedRecipients group device) s distribution trail) :
    Closed ⟨group.groupId, owner, device⟩ distribution.keyId group.members trail := by
  cases h with
  | @kept record keyId state hforce hrecord hlatest hstate =>
      intro found hfound snapshot hmem hkey recipient hrecipient
      rw [hrecord] at hfound
      cases hfound
      have hholder := (haccounted.repairs group.groupId record hrecord snapshot hmem).2 recipient
        hrecipient
      rw [hkey] at hholder
      exact hholder.imp_right fun hdistributed =>
        Or.inl (haccounted.member_of_distributed hforce hrecord hlatest hdistributed)
  | @rotated record opened keyId chainKey hopened =>
      intro found hfound snapshot hmem hkey recipient hrecipient
      change (opened.manager.senderKeys.insert _ _).get? _ = some found at hfound
      rw [SortedMap.get?_insert_self] at hfound
      cases hfound
      cases hopened with
      | stored hrecord =>
          refine (hrecorded group.groupId record hrecord snapshot hmem recipient
            hrecipient).imp_right ?_
          rintro ⟨holder, haddressed⟩
          exact Or.inr ⟨s.log, [], holder, rfl, haddressed⟩
      | made habsent hpubkey => cases hmem

omit [DecidableEq T] [InvitePrimitives K T] in
/-- After the message, its chain is past it. -/
theorem Closed.emitted {group : GroupRecord K} {owner : OwnerPubkey K} {device : DevicePubkey K}
    {now : UnixSeconds} {s t : GroupWorld K T} {keyId : Nat} {body : T}
    {message : GroupSenderKeyMessageEnvelope K T}
    (h : Closed ⟨group.groupId, owner, device⟩ keyId group.members s.toGroupTrail)
    (hlocal : s.manager.localOwnerPubkey = owner) (hkeyId : message.keyId = keyId)
    (hrun : Program.exec (GroupM.emitSenderKeyMessage now group device body) s =
      (.ok message, t)) :
    Sealed ⟨group.groupId, owner, device⟩ keyId message.messageNumber group.members t.log []
      t.toGroupTrail := by
  refine ⟨(List.append_nil _).symm, (fun _ _ hmem => by cases hmem), fun _ found hfound => ?_⟩
  obtain ⟨-, ⟨_, record, plan, secret, heq, hadvanced, -, hkey, -, -, hnumber, -⟩ |
    ⟨⟨e, heq⟩, -⟩⟩ := GroupM.emitSenderKeyMessage_cases hrun
  case inr => cases heq
  cases heq
  generalize htrail : t.toGroupTrail = trail at hadvanced
  change t.toGroupTrail.manager.senderKeys.get? _ = some found at hfound
  rw [htrail] at hfound
  cases hadvanced with
  | mk hrecord hlatest hstate hplaintext hplan =>
      rw [GroupManager.localSenderKeyId, hlocal] at hrecord hfound
      change (s.manager.senderKeys.insert _ _).get? _ = some found at hfound
      rw [SortedMap.get?_insert_self] at hfound
      cases hfound
      rw [hlatest, hkeyId] at hkey
      cases hkey
      obtain ⟨-, -, -, hplanned, hnext⟩ := SenderKeyState.planEncrypt_eq_ok hplan
      refine ⟨fun state' hstate' => ?_, fun snapshot hmem hkey _ => h record hrecord snapshot hmem
        hkey⟩
      change (record.states.insert keyId plan.nextState).get? keyId = some state' at hstate'
      rw [SortedMap.get?_insert_self] at hstate'
      cases hstate'
      rw [hnumber, hplanned, hnext]
      exact Nat.lt_succ_self _

/-- In every run of the manager of a device, once a sender-key message went out to the members
of its group, a distribution that leads to the message is handed only to those members and to
the local owner, whatever happens to the group afterwards. An older chain, or a later one,
under the same key id is another chain. -/
theorem message_chain_kept_from_later_members (owner : OwnerPubkey K) (device : DevicePubkey K)
    (actions : List (GroupAction K T)) (hruns : ∀ action ∈ actions, action.RunsOn owner device)
    (now : UnixSeconds) (groupId : String) (body : T) (sessions : SessionManager K T)
    (rng : GroupRng K) (howner : sessions.localOwnerPubkey = owner)
    (hdevice : sessions.localDevicePubkey = device) (group : GroupRecord K)
    (hgroup : ((GroupTrail.new owner).run actions).manager.groups.get? groupId = some group)
    (prepared : GroupPreparedSend K T) (after : GroupWorld K T)
    (hsent : Program.exec (GroupM.sendMessage now groupId body)
      ⟨(GroupTrail.new owner).run actions, sessions, rng⟩ = (.ok prepared, after))
    (message : GroupSenderKeyMessageEnvelope K T)
    (hmessage : message ∈ prepared.remote.senderKeyMessages ∨
      message ∈ prepared.localSibling.senderKeyMessages)
    (later : List (GroupAction K T)) (hlater : ∀ action ∈ later, action.RunsOn owner device) :
    ∃ handed, (after.toGroupTrail.run later).log = after.log ++ handed ∧
      ∀ holder distribution,
        .addressed holder (.senderKeyDistribution distribution) ∈
          untilRestarted ⟨groupId, owner, device⟩ message.keyId handed →
        distribution.groupId = groupId → distribution.keyId = message.keyId →
        distribution.iteration ≤ message.messageNumber →
        holder = owner ∨ holder ∈ group.members ∨
          HandedBeforeStart ⟨groupId, owner, device⟩ message.keyId after.log distribution := by
  have hstart := AccountedRun.new (T := T) owner device
  have hrun := hstart.run hruns
  have hrecorded : Recorded owner device ((GroupTrail.new (T := T) owner).run actions) := by
    refine hstart.run_keeps (fun _ _ haccounted heffect hI => hI.effect haccounted heffect)
      (fun _ _ hkept hI => hI.of_ownKept hkept) hruns ?_
    intro _ _ hget
    cases hget
  generalize (GroupTrail.new (T := T) owner).run actions = trail at hrun hrecorded hgroup hsent
  obtain rfl : group.groupId = groupId := hrun.groups.groupId groupId group hgroup
  obtain ⟨-, -, e, heq⟩ | ⟨-, -, hsent⟩ | ⟨-, -, hnone⟩ := GroupM.sendMessage_cases hgroup hsent
  · cases heq
  · obtain ⟨s₁, s₂, s₃, s₄, distribution, emitted, hsteps, hremote, hlocal⟩ :=
      GroupM.sendSenderKeyMessage_steps hsent
    have hemitted : message = emitted := by
      obtain hmem | hmem := hmessage
      · rw [hremote] at hmem
        exact List.mem_singleton.mp hmem
      · exact hlocal message hmem
    subst hemitted
    have hreach := GroupM.local_sendSenderKeyMessage now group body ⟨trail, sessions, rng⟩
    rw [hsent] at hreach
    have hafter : AccountedRun owner device after.toGroupTrail :=
      AccountedRun.reaches (s := ⟨trail, sessions, rng⟩) hrun howner hdevice hreach
    have hafterLocal : after.manager.localOwnerPubkey = owner := hafter.accounted.localOwner
    obtain ⟨hdevice₁, hlocal₄, hchain, hclosed⟩ := hsteps.keeps hrun howner hdevice
      (fun trail => trail.manager.localOwnerPubkey = owner ∧
        Exclusive group ⟨group.groupId, owner, device⟩ distribution.keyId trail ∧
        Closed ⟨group.groupId, owner, device⟩ distribution.keyId group.members trail)
      (fun hreach₁ hrun₁ hensured => by
        have hrecorded₁ : Recorded owner device s₁.toGroupTrail := by
          subst howner hdevice
          exact (hreach₁.preserves
            (I := fun trail => Accounted sessions.localOwnerPubkey sessions.localDevicePubkey
              trail ∧ Recorded sessions.localOwnerPubkey sessions.localDevicePubkey trail)
            (fun _ _ hstep hI => ⟨hI.1.effect hstep, hI.2.effect hI.1 hstep⟩)
            ⟨hrun.accounted, hrecorded⟩).2
        exact ⟨hensured.localOwnerPubkey.trans hrun₁.accounted.localOwner,
          Exclusive.ensured hrun₁.accounted hensured,
          Closed.ensured hrun₁.accounted hrecorded₁ hensured⟩)
      (fun _ _ hrecipients hP => ⟨((GroupManager.frame_recordSenderKeyRepairSnapshot _ _ _ _
          _).trans (GroupManager.frame_markSenderKeyDistributionRecipients _ _ _ _
          _)).localOwnerPubkey.trans hP.1,
        hP.2.1.distributed hrecipients, hP.2.2.distributed hrecipients⟩)
      (fun _ hP => ⟨hP.1, hP.2.1.shared, hP.2.2.grow rfl fun record hrecord _ hmem =>
        Or.inl ⟨record, hrecord, hmem⟩⟩)
      (fun _ hP => ⟨(GroupManager.frame_recordSenderKeyRepairSnapshot _ _ _ _
          _).localOwnerPubkey.trans hP.1,
        ⟨hP.2.1.latest.recordSenderKeyRepairSnapshot (fun _ _ hlatest => hlatest) _ _ _ _,
          hP.2.1.heldBy⟩, hP.2.2.remembered hP.1⟩)
    have hemit := hsteps.emitted
    rw [hdevice₁] at hemit
    obtain ⟨-, hkeyId, -⟩ := hchain.emitted hafterLocal hemit
    have hsealed := hclosed.emitted hlocal₄ hkeyId hemit
    rw [← hkeyId] at hsealed
    obtain ⟨handed, hend⟩ := hafter.run_keeps (P := fun trail => ∃ handed,
        Sealed ⟨group.groupId, owner, device⟩ message.keyId message.messageNumber group.members
          after.log handed trail)
      (fun _ _ haccounted heffect hI => by
        obtain ⟨handed, hI⟩ := hI
        exact hI.effect haccounted rfl heffect)
      (fun _ _ hkept hI => by
        obtain ⟨handed, hI⟩ := hI
        exact ⟨handed, hI.of_ownKept rfl hkept⟩) hlater ⟨[], hsealed⟩
    exact ⟨handed, hend.log_eq, hend.handedTo⟩
  · obtain ⟨hremote, hlocal⟩ := hnone prepared rfl
    rw [hremote, hlocal] at hmessage
    obtain hmem | hmem := hmessage
    · cases hmem
    · cases hmem

end

namespace GroupWire

/-- Owner 2 asks for the chain of the second message of owner 1. -/
def repairActions : List (GroupAction KeyTerm TextTerm) :=
  [.perform 10 (.respondToSenderKeyRepairRequest (exampleOwner 2)
    ⟨"group", exampleDevice 10, some 10, some 1, none, 9⟩) (exampleSessions 1) (exampleRng 30 "")]

/-- Owner 2 is handed the chain again, as a member at the time of the message. -/
theorem repaired_chain_handed_to_member :
    ∃ prepared after message handed,
      Program.exec (GroupM.sendMessage 9 "group" (.bytes "again"))
          ⟨(GroupTrail.new (exampleOwner 1)).run senderKeyActions, exampleSessions 1,
            exampleRng 20 ""⟩ = (.ok prepared, after) ∧
      message ∈ prepared.remote.senderKeyMessages ∧
      (after.toGroupTrail.run repairActions).log = after.log ++ handed ∧
      (untilRestarted ⟨"group", exampleOwner 1, exampleDevice 1⟩ message.keyId handed).any
        (fun entry => match entry with
          | .addressed holder (.senderKeyDistribution distribution) =>
              holder = exampleOwner 2 && distribution.keyId = message.keyId &&
                decide (distribution.iteration ≤ message.messageNumber)
          | _ => false) = true ∧
      ∀ holder distribution,
        .addressed holder (.senderKeyDistribution distribution) ∈ untilRestarted
          ⟨"group", exampleOwner 1, exampleDevice 1⟩ message.keyId handed →
        distribution.groupId = "group" → distribution.keyId = message.keyId →
        distribution.iteration ≤ message.messageNumber →
        holder = exampleOwner 1 ∨
          holder ∈ SortedSet.ofList [exampleOwner 1, exampleOwner 2] ∨
          HandedBeforeStart ⟨"group", exampleOwner 1, exampleDevice 1⟩ message.keyId after.log
            distribution := by
  have hruns : ∀ action ∈ senderKeyActions,
      action.RunsOn (exampleOwner 1) (exampleDevice 1) := by
    refine List.forall_mem_cons.mpr ⟨?_, List.forall_mem_cons.mpr ⟨⟨rfl, rfl⟩, ?_⟩⟩
    · exact fun _ _ hself => absurd hself.1 (by decide +kernel)
    · exact fun _ hmem => by cases hmem
  have hlater : ∀ action ∈ repairActions,
      action.RunsOn (exampleOwner 1) (exampleDevice 1) :=
    List.forall_mem_cons.mpr ⟨⟨rfl, rfl⟩, fun _ hmem => by cases hmem⟩
  have hgroup : ((GroupTrail.new (exampleOwner 1)).run senderKeyActions).manager.groups.get?
      "group" = some { exampleRecord "team" 1 with
        createdBy := exampleOwner 2, admins := SortedSet.ofList [exampleOwner 2] } := by
    decide +kernel
  have hcheck : (match Program.exec (GroupM.sendMessage 9 "group" (.bytes "again"))
      ⟨(GroupTrail.new (exampleOwner 1)).run senderKeyActions, exampleSessions 1,
        exampleRng 20 ""⟩ with
      | (.ok prepared, after) => prepared.remote.senderKeyMessages.any (fun message =>
          (untilRestarted ⟨"group", exampleOwner 1, exampleDevice 1⟩ message.keyId
            ((after.toGroupTrail.run repairActions).log.drop after.log.length)).any
            (fun entry => match entry with
              | .addressed holder (.senderKeyDistribution distribution) =>
                  holder = exampleOwner 2 && distribution.keyId = message.keyId &&
                    decide (distribution.iteration ≤ message.messageNumber)
              | _ => false))
      | (.error _, _) => false) = true := by
    decide +kernel
  generalize hsent : Program.exec (GroupM.sendMessage 9 "group" (.bytes "again"))
    ⟨(GroupTrail.new (exampleOwner 1)).run senderKeyActions, exampleSessions 1,
      exampleRng 20 ""⟩ = outcome at hcheck
  obtain ⟨_ | prepared, after⟩ := outcome
  · cases hcheck
  · obtain ⟨message, hmem, hhanded⟩ := List.any_eq_true.mp hcheck
    obtain ⟨handed, hlog, hentitled⟩ := message_chain_kept_from_later_members (exampleOwner 1)
      (exampleDevice 1) senderKeyActions hruns 9 "group" (.bytes "again") (exampleSessions 1)
      (exampleRng 20 "") rfl rfl _ hgroup prepared after hsent message (Or.inl hmem)
      repairActions hlater
    refine ⟨prepared, after, message, handed, rfl, hmem, hlog, ?_, hentitled⟩
    rw [hlog, List.drop_left] at hhanded
    exact hhanded

end GroupWire

end NostrDoubleRatchet
