import NostrDoubleRatchet.Group.WireRoundTrip

/-!
Who may change a group. Along every run of a manager its groups stay well formed, and the
record of a known group changes only by an edit of the local owner while it is an admin, by a
higher revision from an admin or the local owner, or by a new group that drew the same id.
-/

namespace NostrDoubleRatchet

variable {K T : Type} [LinearOrder K] [DecidableEq T] [Primitives K T] [InvitePrimitives K T]
  [GroupPayloadCodec K T]

/-- The calls that may store `record`. -/
inductive GroupAction.Stores (manager : GroupManager K) (record : GroupRecord K) :
    GroupAction K T → Prop
  | created (now : UnixSeconds) (operation : GroupOperation K T) (sessions : SessionManager K T)
      (rng : GroupRng K) (hdrawn : operation.drawnGroupId rng = some record.groupId) :
      GroupAction.Stores manager record (.perform now operation sessions rng)
  | edited (now : UnixSeconds) (operation : GroupOperation K T) (sessions : SessionManager K T)
      (rng : GroupRng K) (current : GroupRecord K)
      (hcurrent : manager.groups.get? record.groupId = some current)
      (hedited : GroupRecord.Edited manager.localOwnerPubkey current record) :
      GroupAction.Stores manager record (.perform now operation sessions rng)
  | announced (senderOwner : OwnerPubkey K) (senderDevice : Option (DevicePubkey K)) (payload : T)
      (snapshot : GroupSnapshot K)
      (hdecode : GroupPayloadCodec.decodePairwiseCommand (K := K) payload =
        .ok (some (.metadataSnapshot snapshot)))
      (hrecord : GroupRecord.fromMetadataSnapshot snapshot = .ok record)
      (hexisting : ∀ existing, manager.groups.get? record.groupId = some existing →
        existing.protocol = record.protocol ∧ existing.revision < record.revision ∧
          (senderOwner = manager.localOwnerPubkey ∨ senderOwner ∈ existing.admins)) :
      GroupAction.Stores manager record (.payload senderOwner senderDevice payload)

/-- A well-formed record that `action` may store under its id. -/
structure GroupAction.MayStore (manager : GroupManager K) (action : GroupAction K T)
    (record : GroupRecord K) : Prop where
  stores : action.Stores manager record
  wellFormed : record.WellFormed
  protocol : validateSupportedProtocol record.protocol = .ok ()

namespace GroupManager

omit [DecidableEq T] [InvitePrimitives K T] [GroupPayloadCodec K T] in
theorem observeSenderKeyDistribution_frame {manager next : GroupManager K}
    {senderOwner : OwnerPubkey K} {senderDevice : DevicePubkey K}
    {distribution : SenderKeyDistribution K}
    (h : manager.observeSenderKeyDistribution senderOwner senderDevice distribution = .ok next) :
    next.groups = manager.groups ∧ next.localOwnerPubkey = manager.localOwnerPubkey := by
  obtain rfl | ⟨resolved, hresolved, rfl⟩ := observeSenderKeyDistribution_cases h
  · exact ⟨rfl, rfl⟩
  · have hframe : resolved.groups = manager.groups ∧
        resolved.localOwnerPubkey = manager.localOwnerPubkey := by
      unfold resolveDuplicate at hresolved
      split at hresolved
      · cases hresolved
        exact ⟨rfl, rfl⟩
      · dsimp only at hresolved
        split at hresolved
        · cases hresolved
          exact ⟨rfl, rfl⟩
        · cases hresolved
    exact hframe

omit [DecidableEq T] [Primitives K T] [InvitePrimitives K T] [GroupPayloadCodec K T] in
theorem applySenderKeyReceivePlan_frame {manager next : GroupManager K}
    {plan : GroupSenderKeyReceivePlan K T} {result : GroupSenderKeyHandleResult K T}
    (h : manager.applySenderKeyReceivePlan plan = .ok (result, next)) :
    next.groups = manager.groups ∧ next.localOwnerPubkey = manager.localOwnerPubkey := by
  obtain rfl | ⟨mutation, record, -, -, -, -, rfl⟩ := applySenderKeyReceivePlan_cases h
  · exact ⟨rfl, rfl⟩
  · exact ⟨rfl, rfl⟩

end GroupManager

namespace GroupTrail

/-- A call leaves the groups as they were or stores one record. -/
theorem act_groups {trail : GroupTrail K T} (hvalid : trail.manager.GroupsValid)
    (action : GroupAction K T) :
    (trail.act action).manager.localOwnerPubkey = trail.manager.localOwnerPubkey ∧
      ((trail.act action).manager.groups = trail.manager.groups ∨
        ∃ record, action.MayStore trail.manager record ∧
          (trail.act action).manager.groups =
            trail.manager.groups.insert record.groupId record) := by
  cases action with
  | perform now operation sessions rng =>
      obtain ⟨world, hreach, hend⟩ :=
        GroupM.performsFrom_perform now operation ⟨trail, sessions, rng⟩
      have hframe := hreach.frame
      have hact : trail.act (.perform now operation sessions rng) =
          (Program.exec (GroupM.perform now operation) ⟨trail, sessions, rng⟩).2.toGroupTrail := rfl
      rw [hact]
      obtain hend | ⟨-, record, hstores, hend⟩ := hend
      · rw [hend]
        exact ⟨hframe.localOwnerPubkey, Or.inl hframe.groups⟩
      · rw [hend]
        refine ⟨hframe.localOwnerPubkey, Or.inr ⟨record, ?_, ?_⟩⟩
        · cases hstores with
          | created hdrawn hprotocol hmember hadmins hrevision =>
              refine ⟨.created now operation sessions rng hdrawn, ?_, hprotocol⟩
              refine ⟨⟨_, hmember⟩, ⟨_, (hadmins _).mpr rfl⟩, ?_⟩
              intro owner howner
              rw [(hadmins owner).mp howner]
              exact hmember
          | edited groupId current hcurrent hedited =>
              have hgroupId : record.groupId = groupId :=
                hedited.groupId.trans (hvalid.groupId groupId current hcurrent)
              refine ⟨.edited now operation sessions rng current ?_ hedited, ?_, ?_⟩
              · rw [hgroupId]
                exact hcurrent
              · exact hedited.wellFormed (hvalid.wellFormed groupId current hcurrent)
              · rw [hedited.protocol]
                exact hvalid.protocol groupId current hcurrent
        · change world.manager.groups.insert _ _ = _
          rw [hframe.groups]
  | payload senderOwner senderDevice payload =>
      have hact : (trail.act (.payload senderOwner senderDevice payload)).manager =
          trail.manager.after
            (trail.manager.handlePairwisePayloadInner senderOwner senderDevice payload) := rfl
      rw [hact]
      cases hresult : trail.manager.handlePairwisePayloadInner senderOwner senderDevice payload with
      | error error => exact ⟨rfl, Or.inl rfl⟩
      | ok outcome =>
          obtain ⟨event, next⟩ := outcome
          obtain rfl | ⟨snapshot, hdecode, hsnapshot⟩ | ⟨device, distribution, -, -, hobserved⟩ :=
            GroupManager.handlePairwisePayloadInner_cases hresult
          · exact ⟨rfl, Or.inl rfl⟩
          · obtain rfl | ⟨record, hrecord, rfl, hexisting⟩ :=
              GroupManager.handleMetadataSnapshot_cases hsnapshot
            · exact ⟨rfl, Or.inl rfl⟩
            · obtain ⟨hwell, hprotocol, -⟩ := GroupRecord.fromSnapshot_eq_ok
                (GroupRecord.fromMetadataSnapshot_eq_ok hrecord).1
              exact ⟨rfl, Or.inr ⟨record, ⟨.announced senderOwner senderDevice payload snapshot
                hdecode hrecord hexisting, hwell, hprotocol⟩, rfl⟩⟩
          · obtain ⟨hgroups, hlocal⟩ := GroupManager.observeSenderKeyDistribution_frame hobserved
            exact ⟨hlocal, Or.inl hgroups⟩
  | senderKeyMessage message =>
      have hact : (trail.act (.senderKeyMessage message)).manager =
          trail.manager.after (trail.manager.handleSenderKeyMessage message) := rfl
      rw [hact]
      cases hresult : trail.manager.handleSenderKeyMessage message with
      | error error => exact ⟨rfl, Or.inl rfl⟩
      | ok outcome =>
          obtain ⟨plan, happly⟩ := GroupManager.handleSenderKeyMessage_applies hresult
          obtain ⟨hgroups, hlocal⟩ := GroupManager.applySenderKeyReceivePlan_frame happly
          exact ⟨hlocal, Or.inl hgroups⟩
  | applyPlan plan =>
      have hact : (trail.act (.applyPlan plan)).manager =
          trail.manager.after (trail.manager.applySenderKeyReceivePlan plan) := rfl
      rw [hact]
      cases hresult : trail.manager.applySenderKeyReceivePlan plan with
      | error error => exact ⟨rfl, Or.inl rfl⟩
      | ok outcome =>
          obtain ⟨hgroups, hlocal⟩ := GroupManager.applySenderKeyReceivePlan_frame hresult
          exact ⟨hlocal, Or.inl hgroups⟩
  | restore =>
      obtain ⟨hgroups, hlocal⟩ := hvalid.restart_frame
      exact ⟨hlocal, Or.inl hgroups⟩

theorem act_groupsValid {trail : GroupTrail K T} (hvalid : trail.manager.GroupsValid)
    (action : GroupAction K T) : (trail.act action).manager.GroupsValid := by
  obtain ⟨-, hsame | ⟨record, hstore, hgroups⟩⟩ := act_groups hvalid action
  · exact hvalid.of_groups_eq hsame
  · exact (hvalid.setGroup hstore.wellFormed hstore.protocol).of_groups_eq hgroups

theorem run_groupsValid {trail : GroupTrail K T} (hvalid : trail.manager.GroupsValid)
    (actions : List (GroupAction K T)) : (trail.run actions).manager.GroupsValid := by
  induction actions generalizing trail with
  | nil => exact hvalid
  | cons action rest ih => exact ih (act_groupsValid hvalid action)

theorem run_localOwnerPubkey {trail : GroupTrail K T} (hvalid : trail.manager.GroupsValid)
    (actions : List (GroupAction K T)) :
    (trail.run actions).manager.localOwnerPubkey = trail.manager.localOwnerPubkey := by
  induction actions generalizing trail with
  | nil => rfl
  | cons action rest ih =>
      exact (ih (act_groupsValid hvalid action)).trans (act_groups hvalid action).1

end GroupTrail

/-- Why the record of a known group may change. -/
inductive GroupAction.Authorized (manager : GroupManager K) (previous next : GroupRecord K) :
    GroupAction K T → Prop
  | operation (now : UnixSeconds) (operation : GroupOperation K T) (sessions : SessionManager K T)
      (rng : GroupRng K) (hadmin : manager.localOwnerPubkey ∈ previous.admins) :
      GroupAction.Authorized manager previous next (.perform now operation sessions rng)
  | snapshot (senderOwner : OwnerPubkey K) (senderDevice : Option (DevicePubkey K)) (payload : T)
      (snapshot : GroupSnapshot K)
      (hdecode : GroupPayloadCodec.decodePairwiseCommand (K := K) payload =
        .ok (some (.metadataSnapshot snapshot)))
      (hnext : GroupRecord.fromMetadataSnapshot snapshot = .ok next)
      (hrevision : previous.revision < next.revision)
      (hsender : senderOwner ∈ previous.admins ∨ senderOwner = manager.localOwnerPubkey) :
      GroupAction.Authorized manager previous next (.payload senderOwner senderDevice payload)

/-- In every state a manager reaches from an empty one, every group has a member and an admin
and its admins are members. A call that changes the record of a known group is a local
operation while the local owner was an admin, a higher revision from an admin of the previous
record or from the local owner, or the creation of a group for which the id of the known one
was drawn. Known groups are never dropped. -/
theorem groups_change_by_authority (owner : OwnerPubkey K) (actions : List (GroupAction K T)) :
    (∀ groupId record,
      ((GroupTrail.new owner).run actions).manager.groups.get? groupId = some record →
        record.WellFormed) ∧
    ∀ action groupId previous,
      ((GroupTrail.new owner).run actions).manager.groups.get? groupId = some previous →
        ∃ next,
          (((GroupTrail.new owner).run actions).act action).manager.groups.get? groupId =
            some next ∧
          (next = previous ∨
            action.Authorized ((GroupTrail.new owner).run actions).manager previous next ∨
            ∃ now operation sessions rng, action = .perform now operation sessions rng ∧
              operation.drawnGroupId rng = some groupId) := by
  have hvalid : ((GroupTrail.new (T := T) owner).run actions).manager.GroupsValid :=
    GroupTrail.run_groupsValid (GroupManager.groupsValid_new owner) actions
  generalize (GroupTrail.new (T := T) owner).run actions = trail at hvalid
  refine ⟨hvalid.wellFormed, ?_⟩
  intro action groupId previous hprevious
  obtain ⟨-, hsame | ⟨record, hstore, hgroups⟩⟩ := GroupTrail.act_groups hvalid action
  · exact ⟨previous, by rw [hsame]; exact hprevious, Or.inl rfl⟩
  · rw [hgroups, SortedMap.get?_insert]
    by_cases hid : record.groupId = groupId
    · subst hid
      rw [if_pos rfl]
      refine ⟨record, rfl, Or.inr ?_⟩
      obtain ⟨hstores, -, -⟩ := hstore
      cases hstores with
      | created now operation sessions rng hdrawn =>
          exact Or.inr ⟨now, operation, sessions, rng, rfl, hdrawn⟩
      | edited now operation sessions rng current hcurrent hedited =>
          rw [hprevious] at hcurrent
          cases hcurrent
          exact Or.inl (.operation now operation sessions rng hedited.admin)
      | announced senderOwner senderDevice payload snapshot hdecode hrecord hexisting =>
          obtain ⟨-, hrevision, hsender⟩ := hexisting previous hprevious
          exact Or.inl (.snapshot senderOwner senderDevice payload snapshot hdecode hrecord
            hrevision hsender.symm)
    · rw [if_neg hid]
      exact ⟨previous, hprevious, Or.inl rfl⟩

/-! A group id that is drawn twice. -/

namespace GroupWire

/-- Sessions of owner `n` on its device `n`, without any peer. -/
def exampleSessions (n : Nat) : SessionManager KeyTerm TextTerm where
  localOwnerPubkey := exampleOwner n
  localDevicePubkey := exampleDevice n
  localDeviceSecretKey := .secret n
  localInvite := none
  verifiedPeerAppKeys := VerifiedAppKeysIndex.default
  users := SortedMap.empty

/-- A generator whose keys are counted from `start` and whose group id is `groupId`. -/
def exampleRng (start : Nat) (groupId : String) : GroupRng KeyTerm where
  secretKeys := fun n => .secret (start + n)
  words := fun n => n
  aux := fun n => .secret (start + n)
  nonces := fun n => .secret (start + n)
  groupIds := fun _ => groupId
  keyIds := fun n => start + n
  chainKeys := fun n => .secret (start + 100 + n)

/-- The text of a command from a device. -/
def examplePayload (device : Nat) (command : GroupPairwiseCommand KeyTerm TextTerm) : TextTerm :=
  (encodePairwiseCommand ⟨exampleDevice device, 9⟩ command).toOption.getD (.bytes "")

/-- Owner 1 has group `group` from its admin, owner 2, and then draws that id for a group of
its own. -/
def takenIdActions : List (GroupAction KeyTerm TextTerm) :=
  [.payload (exampleOwner 2) (some (exampleDevice 2)) (examplePayload 2 (.metadataSnapshot
    { (exampleRecord "team" 1).snapshot with
      createdBy := exampleOwner 2, admins := [exampleOwner 2] }))]

def takenIdAction : GroupAction KeyTerm TextTerm :=
  .perform 7 (.createGroup "mine" [] GroupProtocol.pairwiseFanoutV1) (exampleSessions 1)
    (exampleRng 10 "group")

/-- A member that is no admin replaces the record of a known group. -/
theorem known_group_replaced_by_new_one :
    ∃ previous next,
      ((GroupTrail.new (exampleOwner 1)).run takenIdActions).manager.groups.get? "group" =
        some previous ∧
      (((GroupTrail.new (exampleOwner 1)).run takenIdActions).act
        takenIdAction).manager.groups.get? "group" = some next ∧
      next ≠ previous ∧
      ¬ takenIdAction.Authorized ((GroupTrail.new (exampleOwner 1)).run takenIdActions).manager
        previous next := by
  have hprevious : ((GroupTrail.new (exampleOwner 1)).run takenIdActions).manager.groups.get?
      "group" = some { exampleRecord "team" 1 with
        createdBy := exampleOwner 2, admins := SortedSet.ofList [exampleOwner 2] } := by
    decide +kernel
  have hnext : (((GroupTrail.new (exampleOwner 1)).run takenIdActions).act
      takenIdAction).manager.groups.get? "group" = some (GroupM.newGroupRecord 7 "group"
        GroupProtocol.pairwiseFanoutV1 "mine" (exampleOwner 1) SortedSet.empty) := by
    decide +kernel
  refine ⟨_, _, hprevious, hnext, by decide +kernel, ?_⟩
  intro hauthorized
  unfold takenIdAction at hauthorized
  cases hauthorized with
  | operation _ _ _ _ hadmin => exact absurd hadmin (by decide +kernel)

end GroupWire

end NostrDoubleRatchet
