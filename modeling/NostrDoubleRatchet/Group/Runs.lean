import NostrDoubleRatchet.Group.Effects
import NostrDoubleRatchet.Group.Decrypt

/-!
The calls a group manager can get, and what one of them does: the local operations as
sequences of effects that may end in one change of a group record, the edits behind those
changes, and the runs of a manager from an empty one.
-/

namespace NostrDoubleRatchet

variable {K T : Type} [LinearOrder K]

theorem ensure_eq_ok {condition : Bool} {error : Error} {u : Unit} :
    ensure condition error = .ok u ↔ condition = true := by
  unfold ensure
  cases condition with
  | false => simp
  | true => simp

theorem forM_eq_ok {α : Type} {items : List α} {check : α → Except Error Unit} {u : Unit} :
    items.forM check = .ok u ↔ ∀ a ∈ items, check a = .ok () := by
  induction items with
  | nil =>
      simp only [List.not_mem_nil, false_implies, implies_true, iff_true]
      rfl
  | cons a rest ih =>
      change (check a >>= fun _ => rest.forM check) = .ok u ↔ _
      rw [except_bind_eq_ok]
      simp only [List.mem_cons, forall_eq_or_imp, ih]
      constructor
      · rintro ⟨_, ha, hrest⟩
        exact ⟨ha, hrest⟩
      · rintro ⟨ha, hrest⟩
        exact ⟨(), ha, hrest⟩

theorem checkOwners_eq_ok {owners : SortedSet (OwnerPubkey K)}
    {check : OwnerPubkey K → Except Error Unit} {u : Unit} :
    checkOwners owners check = .ok u ↔ ∀ owner ∈ owners, check owner = .ok () := by
  unfold checkOwners
  rw [forM_eq_ok]
  simp only [SortedSet.mem_toList]

namespace GroupRecord

/-- A group has a member and an admin, and its admins are members. -/
structure WellFormed (record : GroupRecord K) : Prop where
  members : ∃ owner, owner ∈ record.members
  admins : ∃ owner, owner ∈ record.admins
  subset : ∀ owner ∈ record.admins, owner ∈ record.members

/-- One edit by `actor`: at the next revision, of the same group. -/
structure Edited (actor : OwnerPubkey K) (record next : GroupRecord K) : Prop where
  admin : actor ∈ record.admins
  groupId : next.groupId = record.groupId
  protocol : next.protocol = record.protocol
  revision : next.revision = u64Succ record.revision
  wellFormed : record.WellFormed → next.WellFormed

end GroupRecord

theorem validateGroupInvariants_eq_ok {members admins : SortedSet (OwnerPubkey K)} {u : Unit} :
    validateGroupInvariants members admins = .ok u ↔
      (∃ owner, owner ∈ members) ∧ (∃ owner, owner ∈ admins) ∧ ∀ owner ∈ admins, owner ∈ members := by
  unfold validateGroupInvariants
  simp only [except_bind_eq_ok, ensure_eq_ok, Bool.not_eq_true', SortedSet.isEmpty_eq_false,
    SortedSet.isSubset_iff, exists_const]

theorem validateUniqueOwners_eq_ok {values : List (OwnerPubkey K)} {label : String}
    {set : SortedSet (OwnerPubkey K)} (h : validateUniqueOwners values label = .ok set) :
    set = SortedSet.ofList values := by
  unfold validateUniqueOwners at h
  dsimp only at h
  split at h
  · cases h
  · cases h
    rfl

theorem validateUniqueOwners_toList (owners : SortedSet (OwnerPubkey K)) (label : String) :
    validateUniqueOwners owners.toList label = .ok owners := by
  unfold validateUniqueOwners
  rw [SortedSet.ofList_toList, SortedSet.length_toList]
  exact if_neg (not_not.mpr rfl)

namespace GroupRecord

/-- A record is read back from its own snapshot. -/
theorem fromSnapshot_snapshot {record : GroupRecord K} (hwell : record.WellFormed)
    (hprotocol : validateSupportedProtocol record.protocol = .ok ()) :
    fromSnapshot record.snapshot = .ok record := by
  have hinvariants : validateGroupInvariants record.members record.admins = .ok () :=
    validateGroupInvariants_eq_ok.mpr ⟨hwell.members, hwell.admins, hwell.subset⟩
  unfold fromSnapshot snapshot
  rw [validateUniqueOwners_toList, validateUniqueOwners_toList, hprotocol]
  change (validateGroupInvariants record.members record.admins >>= fun _ => _) = _
  rw [hinvariants]
  rfl

theorem fromMetadataSnapshot_snapshot {record : GroupRecord K} (hwell : record.WellFormed)
    (hprotocol : validateSupportedProtocol record.protocol = .ok ()) (hrevision : record.revision ≠ 0) :
    fromMetadataSnapshot record.snapshot = .ok record := by
  unfold fromMetadataSnapshot
  rw [fromSnapshot_snapshot hwell hprotocol]
  change (validateSupportedProtocol record.protocol >>= fun _ => _) = _
  rw [hprotocol]
  simp only [except_bind_eq_ok, ensure_eq_ok, decide_eq_true_eq]
  exact ⟨(), trivial, (), hrevision, rfl⟩

end GroupRecord

namespace GroupRecord

variable [Primitives K T]

private theorem applyEdit_edited {record next : GroupRecord K}
    {edit : GroupRecord K → Except Error (GroupRecord K)} {actor : OwnerPubkey K}
    {baseRevision newRevision : Nat} {updatedAt : UnixSeconds}
    (h : record.applyEdit edit actor baseRevision newRevision updatedAt = .ok next)
    (hedit : ∀ edited, edit record = .ok edited →
      edited.groupId = record.groupId ∧ edited.protocol = record.protocol ∧
        (record.WellFormed → edited.WellFormed)) :
    Edited actor record next := by
  unfold applyEdit ensureAdmin ensureRevision at h
  simp only [except_bind_eq_ok, ensure_eq_ok, decide_eq_true_eq, exists_const] at h
  obtain ⟨hadmin, ⟨rfl, rfl⟩, edited, hedited, hnext⟩ := h
  obtain ⟨hgroup, hprotocol, hwell⟩ := hedit edited hedited
  cases hnext
  exact ⟨hadmin, hgroup, hprotocol, rfl, fun hrecord =>
    ⟨(hwell hrecord).members, (hwell hrecord).admins, (hwell hrecord).subset⟩⟩

private theorem keeps_of_fields {record edited : GroupRecord K}
    (hgroup : edited.groupId = record.groupId) (hprotocol : edited.protocol = record.protocol)
    (hmembers : edited.members = record.members) (hadmins : edited.admins = record.admins) :
    edited.groupId = record.groupId ∧ edited.protocol = record.protocol ∧
      (record.WellFormed → edited.WellFormed) := by
  refine ⟨hgroup, hprotocol, fun hrecord => ⟨?_, ?_, ?_⟩⟩
  · rw [hmembers]
    exact hrecord.members
  · rw [hadmins]
    exact hrecord.admins
  · rw [hmembers, hadmins]
    exact hrecord.subset

theorem applyRename_edited {record next : GroupRecord K} {actor : OwnerPubkey K} {name : String}
    {base new : Nat} {now : UnixSeconds}
    (h : record.applyRename actor name base new now = .ok next) : Edited actor record next := by
  refine applyEdit_edited h ?_
  intro edited hedited
  cases hedited
  exact keeps_of_fields rfl rfl rfl rfl

theorem applyPictureChange_edited {record next : GroupRecord K} {actor : OwnerPubkey K}
    {picture : Option String} {base new : Nat} {now : UnixSeconds}
    (h : record.applyPictureChange actor picture base new now = .ok next) :
    Edited actor record next := by
  refine applyEdit_edited h ?_
  intro edited hedited
  cases hedited
  exact keeps_of_fields rfl rfl rfl rfl

theorem applyAboutChange_edited {record next : GroupRecord K} {actor : OwnerPubkey K}
    {about : Option String} {base new : Nat} {now : UnixSeconds}
    (h : record.applyAboutChange actor about base new now = .ok next) :
    Edited actor record next := by
  refine applyEdit_edited h ?_
  intro edited hedited
  cases hedited
  exact keeps_of_fields rfl rfl rfl rfl

theorem applyAddMembers_edited {record next : GroupRecord K} {actor : OwnerPubkey K}
    {additions : SortedSet (OwnerPubkey K)} {base new : Nat} {now : UnixSeconds}
    (h : record.applyAddMembers actor additions base new now = .ok next) :
    Edited actor record next := by
  refine applyEdit_edited h ?_
  intro edited hedited
  simp only [except_bind_eq_ok] at hedited
  obtain ⟨_, -, _, -, hedited⟩ := hedited
  cases hedited
  refine ⟨rfl, rfl, fun hrecord => ⟨?_, hrecord.admins, ?_⟩⟩
  · obtain ⟨owner, howner⟩ := hrecord.members
    exact ⟨owner, SortedSet.mem_extend.mpr (Or.inr howner)⟩
  · intro owner howner
    exact SortedSet.mem_extend.mpr (Or.inr (hrecord.subset owner howner))

theorem applyRemoveMembers_edited {record next : GroupRecord K} {actor : OwnerPubkey K}
    {removals : SortedSet (OwnerPubkey K)} {base new : Nat} {now : UnixSeconds}
    (h : record.applyRemoveMembers actor removals base new now = .ok next) :
    Edited actor record next := by
  refine applyEdit_edited h ?_
  intro edited hedited
  simp only [except_bind_eq_ok, validateGroupInvariants_eq_ok] at hedited
  obtain ⟨_, -, _, -, _, -, _, hvalid, hedited⟩ := hedited
  cases hedited
  exact ⟨rfl, rfl, fun _ => ⟨hvalid.1, hvalid.2.1, hvalid.2.2⟩⟩

theorem applyAddAdmins_edited {record next : GroupRecord K} {actor : OwnerPubkey K}
    {additions : SortedSet (OwnerPubkey K)} {base new : Nat} {now : UnixSeconds}
    (h : record.applyAddAdmins actor additions base new now = .ok next) :
    Edited actor record next := by
  refine applyEdit_edited h ?_
  intro edited hedited
  simp only [except_bind_eq_ok, checkOwners_eq_ok, ensure_eq_ok, decide_eq_true_eq,
    exists_const] at hedited
  obtain ⟨-, hcheck, hedited⟩ := hedited
  cases hedited
  refine ⟨rfl, rfl, fun hrecord => ⟨hrecord.members, ?_, ?_⟩⟩
  · obtain ⟨owner, howner⟩ := hrecord.admins
    exact ⟨owner, SortedSet.mem_extend.mpr (Or.inr howner)⟩
  · intro owner howner
    obtain hnew | hold := SortedSet.mem_extend.mp howner
    · exact (hcheck owner (SortedSet.mem_toList.mp hnew)).1
    · exact hrecord.subset owner hold

theorem applyRemoveAdmins_edited {record next : GroupRecord K} {actor : OwnerPubkey K}
    {removals : SortedSet (OwnerPubkey K)} {base new : Nat} {now : UnixSeconds}
    (h : record.applyRemoveAdmins actor removals base new now = .ok next) :
    Edited actor record next := by
  refine applyEdit_edited h ?_
  intro edited hedited
  simp only [except_bind_eq_ok, validateGroupInvariants_eq_ok] at hedited
  obtain ⟨_, -, _, -, _, -, _, hvalid, hedited⟩ := hedited
  cases hedited
  exact ⟨rfl, rfl, fun _ => ⟨hvalid.1, hvalid.2.1, hvalid.2.2⟩⟩

end GroupRecord

inductive GroupOperation (K T : Type) where
  | createGroup (name : String) (initialMembers : List (OwnerPubkey K))
      (protocol : GroupProtocol)
  | retryCreateGroup (groupId : String) (recipients : List (OwnerPubkey K))
  | syncGroupToLocalSiblings (groupId : String)
  | sendMessage (groupId : String) (body : T)
  | requestSenderKeyRepair (request : SenderKeyRepairRequest K)
  | respondToSenderKeyRepairRequest (requesterOwner : OwnerPubkey K)
      (request : SenderKeyRepairRequest K)
  | updateName (groupId name : String)
  | updatePicture (groupId : String) (picture : Option String)
  | updateAbout (groupId : String) (about : Option String)
  | retryUpdateName (groupId : String)
  | addMembers (groupId : String) (members : List (OwnerPubkey K))
  | retryAddMembers (groupId : String) (members : List (OwnerPubkey K))
  | removeMembers (groupId : String) (members : List (OwnerPubkey K))
  | retryRemoveMembers (groupId : String) (members : List (OwnerPubkey K))
  | addAdmins (groupId : String) (admins : List (OwnerPubkey K))
  | removeAdmins (groupId : String) (admins : List (OwnerPubkey K))

/-- The id a new group gets. -/
def GroupOperation.drawnGroupId (operation : GroupOperation K T) (rng : GroupRng K) :
    Option String :=
  match operation with
  | .createGroup _ _ _ => some rng.groupIds.head
  | _ => none

/-- What a successful operation hands to the caller. -/
inductive GroupOutput (K T : Type) where
  | created (result : GroupCreateResult K T)
  | prepared (result : GroupPreparedSend K T)
  | published (result : GroupPreparedPublish K T)

namespace GroupM

open Program

variable [DecidableEq T] [Primitives K T] [InvitePrimitives K T] [GroupPayloadCodec K T]

def perform (now : UnixSeconds) : GroupOperation K T → GroupM K T (GroupOutput K T)
  | .createGroup name initialMembers protocol =>
      .created <$> createGroupWithProtocol now name initialMembers protocol
  | .retryCreateGroup groupId recipients => .prepared <$> retryCreateGroup now groupId recipients
  | .syncGroupToLocalSiblings groupId => .published <$> syncGroupToLocalSiblings now groupId
  | .sendMessage groupId body => .prepared <$> sendMessage now groupId body
  | .requestSenderKeyRepair request => .prepared <$> requestSenderKeyRepair now request
  | .respondToSenderKeyRepairRequest requesterOwner request =>
      .prepared <$> respondToSenderKeyRepairRequest now requesterOwner request
  | .updateName groupId name => .prepared <$> updateName now groupId name
  | .updatePicture groupId picture => .prepared <$> updatePicture now groupId picture
  | .updateAbout groupId about => .prepared <$> updateAbout now groupId about
  | .retryUpdateName groupId => .prepared <$> retryUpdateName now groupId
  | .addMembers groupId members => .prepared <$> addMembers now groupId members
  | .retryAddMembers groupId members => .prepared <$> retryAddMembers now groupId members
  | .removeMembers groupId members => .prepared <$> removeMembers now groupId members
  | .retryRemoveMembers groupId members => .prepared <$> retryRemoveMembers now groupId members
  | .addAdmins groupId admins => .prepared <$> addAdmins now groupId admins
  | .removeAdmins groupId admins => .prepared <$> removeAdmins now groupId admins

/-- The group record an operation may store at its end: a new group of the local owner under
the id that was drawn, or an edit of a stored record. -/
inductive Stores (drawn : Option String) (manager : GroupManager K) (record : GroupRecord K) : Prop
  | created (hdrawn : drawn = some record.groupId)
      (hprotocol : validateSupportedProtocol record.protocol = .ok ())
      (hmember : manager.localOwnerPubkey ∈ record.members)
      (hadmins : ∀ owner, owner ∈ record.admins ↔ owner = manager.localOwnerPubkey)
      (hrevision : record.revision = 1)
  | edited (groupId : String) (current : GroupRecord K)
      (hcurrent : manager.groups.get? groupId = some current)
      (hedited : GroupRecord.Edited manager.localOwnerPubkey current record)

/-- From `s` the program is a sequence of effects, after which it may store a record that
`manager` allows. -/
def PerformsFrom {α : Type} (drawn : Option String) (manager : GroupManager K) (x : GroupM K T α)
    (s : GroupWorld K T) : Prop :=
  ∃ t, s.Reaches t ∧
    ((exec x s).2 = t ∨ (∃ a, (exec x s).1 = .ok a) ∧ ∃ record, Stores drawn manager record ∧
      (exec x s).2 = { t with manager := t.manager.setGroup record.groupId record })

section Performing

omit [DecidableEq T] [Primitives K T] [InvitePrimitives K T] [GroupPayloadCodec K T]

variable {α β : Type} {drawn : Option String} {manager : GroupManager K}

theorem Local.performsFrom {x : GroupM K T α} (h : Local x) (s : GroupWorld K T) :
    PerformsFrom drawn manager x s :=
  ⟨_, h s, Or.inl rfl⟩

namespace PerformsFrom

theorem map {x : GroupM K T α} {s : GroupWorld K T} (h : PerformsFrom drawn manager x s) (f : α → β) :
    PerformsFrom drawn manager (f <$> x) s := by
  obtain ⟨t, hreach, hend⟩ := h
  refine ⟨t, hreach, ?_⟩
  rw [exec_map]
  obtain hend | ⟨⟨a, ha⟩, hend⟩ := hend
  · exact Or.inl hend
  · refine Or.inr ⟨⟨f a, ?_⟩, hend⟩
    rw [ha]
    rfl

theorem bind {x : GroupM K T α} {f : α → GroupM K T β} {s : GroupWorld K T} (hx : Local x)
    (hf : ∀ a t, exec x s = (.ok a, t) → PerformsFrom drawn manager (f a) t) :
    PerformsFrom drawn manager (x >>= f) s := by
  have hreach := hx s
  generalize hrun : exec x s = outcome at hreach hf
  obtain ⟨_ | a, mid⟩ := outcome
  · refine ⟨mid, hreach, Or.inl ?_⟩
    rw [exec_bind_error hrun]
  · obtain ⟨t, hnext, hend⟩ := hf a mid rfl
    refine ⟨t, hreach.trans hnext, ?_⟩
    rw [exec_bind_ok hrun]
    exact hend

theorem bind_ofExcept {result : Except Error α} {f : α → GroupM K T β} {s : GroupWorld K T}
    (hf : ∀ a, result = .ok a → PerformsFrom drawn manager (f a) s) :
    PerformsFrom drawn manager (Program.ofExcept result >>= f) s := by
  refine bind (Local.ofExcept result) ?_
  intro a t hrun
  cases hrun
  exact hf a rfl

theorem bind_read {g : GroupWorld K T → α} {f : α → GroupM K T β} {s : GroupWorld K T}
    (hf : PerformsFrom drawn manager (f (g s)) s) : PerformsFrom drawn manager (Program.read g >>= f) s := by
  refine bind (Local.read g) ?_
  intro a t hrun
  cases hrun
  exact hf

theorem store {record : GroupRecord K} (h : Stores drawn manager record) (a : α) (s : GroupWorld K T) :
    PerformsFrom drawn manager
      (updateManager (·.setGroup record.groupId record) >>= fun _ => Pure.pure a) s :=
  ⟨s, GroupWorld.Reaches.refl s, Or.inr ⟨⟨a, rfl⟩, record, h, rfl⟩⟩

end PerformsFrom

theorem local_groupRecord (groupId : String) : Local (groupRecord (T := T) (K := K) groupId) :=
  (Local.read _).bind fun _ => Local.ofExcept _

theorem local_localOwnerPubkey : Local (localOwnerPubkey (T := T) (K := K)) := Local.read _

theorem PerformsFrom.bind_groupRecord {groupId : String} {f : GroupRecord K → GroupM K T β}
    {s : GroupWorld K T}
    (hf : ∀ current, s.manager.groups.get? groupId = some current →
      PerformsFrom drawn manager (f current) s) :
    PerformsFrom drawn manager (groupRecord groupId >>= f) s := by
  refine bind (local_groupRecord groupId) ?_
  intro current t hrun
  have hread : exec (groupRecord groupId) s = (s.manager.groupRecord groupId, s) := rfl
  rw [hread] at hrun
  obtain ⟨hcurrent, rfl⟩ := Prod.mk.inj hrun
  refine hf current ?_
  unfold GroupManager.groupRecord at hcurrent
  split at hcurrent
  · cases hcurrent
  · rename_i record hrecord
    cases hcurrent
    exact hrecord

end Performing

section Operations

variable {drawn : Option String}

omit [DecidableEq T] in
theorem local_publishMetadata (now : UnixSeconds) (record : GroupRecord K)
    (recipients : List (OwnerPubkey K)) :
    Local (publishMetadata (T := T) now record recipients) :=
  (local_fanoutPayload now recipients (fun _ h => by cases h)).bind fun _ =>
    (local_localSiblingPayload now _).bind fun _ => Local.pure _

theorem local_bootstrapIfSenderKey (now : UnixSeconds) (record : GroupRecord K)
    (prepared : GroupPreparedSend K T) : Local (bootstrapIfSenderKey now record prepared) := by
  unfold bootstrapIfSenderKey
  split
  · exact local_prepareSenderKey now record false prepared
  · exact Local.pure prepared

theorem local_rotateIfSenderKey (now : UnixSeconds) (record : GroupRecord K)
    (prepared : GroupPreparedSend K T) : Local (rotateIfSenderKey now record prepared) := by
  unfold rotateIfSenderKey
  split
  · exact local_prepareSenderKey now record true prepared
  · exact Local.pure prepared

theorem performsFrom_createGroupWithProtocol (now : UnixSeconds) (name : String)
    (initialMembers : List (OwnerPubkey K)) (protocol : GroupProtocol) (s : GroupWorld K T) :
    PerformsFrom (some s.rng.groupIds.head) s.manager
      (createGroupWithProtocol now name initialMembers protocol) s := by
  unfold createGroupWithProtocol localOwnerPubkey
  refine PerformsFrom.bind_ofExcept fun memberSet _ => PerformsFrom.bind_read ?_
  refine PerformsFrom.bind_ofExcept fun _ _ => PerformsFrom.bind_ofExcept fun _ hprotocol => ?_
  have hdraw : Local (randomGroupId (T := T) (K := K)) := fun _ =>
    GroupWorld.Reaches.of_trail_eq (SessionManager.SameOutside.refl _) rfl
  refine PerformsFrom.bind hdraw fun groupId t hrun => ?_
  cases hrun
  refine PerformsFrom.bind (local_publishMetadata now _ _) fun prepared u _ => ?_
  refine PerformsFrom.bind (local_bootstrapIfSenderKey now _ _) fun prepared' v _ => ?_
  have hstores : Stores (some s.rng.groupIds.head) s.manager
      (newGroupRecord now s.rng.groupIds.head protocol name s.manager.localOwnerPubkey
        memberSet) := by
    refine Stores.created rfl hprotocol (SortedSet.mem_insert.mpr (Or.inl rfl)) (fun owner => ?_) rfl
    simp only [newGroupRecord, SortedSet.mem_insert, SortedSet.not_mem_empty, or_false]
  exact PerformsFrom.store hstores _ v

omit [DecidableEq T] [Primitives K T] [InvitePrimitives K T] [GroupPayloadCodec K T] in
/-- An edit of a stored group is published and then stored. -/
theorem performsFrom_publishEdit {α : Type} {s t : GroupWorld K T} {groupId : String}
    {current next : GroupRecord K} {publish : GroupM K T α}
    (hcurrent : s.manager.groups.get? groupId = some current)
    (hedited : GroupRecord.Edited s.manager.localOwnerPubkey current next)
    (hpublish : Local publish) :
    PerformsFrom drawn s.manager (do
      let prepared ← publish
      updateManager (·.setGroup current.groupId next)
      pure prepared) t := by
  refine PerformsFrom.bind hpublish fun prepared u _ => ?_
  rw [← hedited.groupId]
  exact PerformsFrom.store (Stores.edited groupId current hcurrent hedited) prepared u

omit [DecidableEq T] in
theorem performsFrom_updateMetadataWith (now : UnixSeconds) (groupId : String)
    {apply : GroupRecord K → OwnerPubkey K → Nat → Nat → UnixSeconds →
      Except Error (GroupRecord K)}
    (happly : ∀ current actor base new now next, apply current actor base new now = .ok next →
      GroupRecord.Edited actor current next) (s : GroupWorld K T) :
    PerformsFrom drawn s.manager (updateMetadataWith now groupId apply) s := by
  unfold updateMetadataWith localOwnerPubkey
  refine PerformsFrom.bind_groupRecord fun current hcurrent => PerformsFrom.bind_read ?_
  refine PerformsFrom.bind_ofExcept fun next hnext => ?_
  exact performsFrom_publishEdit hcurrent (happly _ _ _ _ _ _ hnext)
    (local_publishMetadata now next _)

theorem performsFrom_addMembers (now : UnixSeconds) (groupId : String)
    (members : List (OwnerPubkey K)) (s : GroupWorld K T) :
    PerformsFrom drawn s.manager (addMembers now groupId members) s := by
  unfold addMembers localOwnerPubkey
  refine PerformsFrom.bind_ofExcept fun additions _ => ?_
  refine PerformsFrom.bind_groupRecord fun current hcurrent => PerformsFrom.bind_read ?_
  refine PerformsFrom.bind_ofExcept fun next hnext => ?_
  refine PerformsFrom.bind (local_publishMetadata now next _) fun prepared t _ => ?_
  exact performsFrom_publishEdit hcurrent (GroupRecord.applyAddMembers_edited hnext)
    (local_bootstrapIfSenderKey now next prepared)

theorem performsFrom_removeMembers (now : UnixSeconds) (groupId : String)
    (members : List (OwnerPubkey K)) (s : GroupWorld K T) :
    PerformsFrom drawn s.manager (removeMembers now groupId members) s := by
  unfold removeMembers localOwnerPubkey
  refine PerformsFrom.bind_ofExcept fun removals _ => ?_
  refine PerformsFrom.bind_groupRecord fun current hcurrent => PerformsFrom.bind_read ?_
  refine PerformsFrom.bind_ofExcept fun next hnext => ?_
  refine PerformsFrom.bind (local_publishMetadata now next _) fun prepared t _ => ?_
  exact performsFrom_publishEdit hcurrent (GroupRecord.applyRemoveMembers_edited hnext)
    (local_rotateIfSenderKey now next prepared)

theorem local_retryCreateGroup (now : UnixSeconds) (groupId : String)
    (recipients : List (OwnerPubkey K)) :
    Local (retryCreateGroup (T := T) now groupId recipients) :=
  (local_groupRecord groupId).bind fun record => local_localOwnerPubkey.bind fun _ =>
    (Local.ofExcept _).bind fun _ => (Local.ofExcept _).bind fun _ =>
      (Local.ofExcept _).bind fun _ => (local_publishMetadata now record _).bind fun prepared =>
        local_bootstrapIfSenderKey now record prepared

theorem local_retryAddMembers (now : UnixSeconds) (groupId : String)
    (members : List (OwnerPubkey K)) : Local (retryAddMembers (T := T) now groupId members) :=
  (Local.ofExcept _).bind fun _ => (local_groupRecord groupId).bind fun current =>
    local_localOwnerPubkey.bind fun _ => (Local.ofExcept _).bind fun _ =>
      (Local.ofExcept _).bind fun _ => (local_publishMetadata now current _).bind fun prepared =>
        local_bootstrapIfSenderKey now current prepared

theorem local_retryRemoveMembers (now : UnixSeconds) (groupId : String)
    (members : List (OwnerPubkey K)) : Local (retryRemoveMembers (T := T) now groupId members) :=
  (Local.ofExcept _).bind fun _ => (local_groupRecord groupId).bind fun current =>
    local_localOwnerPubkey.bind fun _ => (Local.ofExcept _).bind fun _ =>
      (Local.ofExcept _).bind fun _ => (local_publishMetadata now current _).bind fun prepared =>
        local_bootstrapIfSenderKey now current prepared

omit [DecidableEq T] in
theorem local_retryUpdateName (now : UnixSeconds) (groupId : String) :
    Local (retryUpdateName (T := T) (K := K) now groupId) :=
  (local_groupRecord groupId).bind fun current => local_localOwnerPubkey.bind fun _ =>
    (Local.ofExcept _).bind fun _ => local_publishMetadata now current _

omit [DecidableEq T] in
theorem local_requestSenderKeyRepair (now : UnixSeconds) (request : SenderKeyRepairRequest K) :
    Local (requestSenderKeyRepair (T := T) now request) := by
  refine (local_groupRecord request.groupId).bind fun record =>
    local_localOwnerPubkey.bind fun owner => ?_
  split
  · exact Local.pure _
  · exact (local_fanoutPayload now _ (fun _ h => by cases h)).bind fun _ =>
      (local_localSiblingPayload now _).bind fun _ => Local.pure _

theorem local_sendMessage (now : UnixSeconds) (groupId : String) (body : T) :
    Local (sendMessage (K := K) now groupId body) := by
  refine (local_groupRecord groupId).bind fun record => local_localOwnerPubkey.bind fun owner =>
    (Local.ofExcept _).bind fun _ => ?_
  split
  · exact local_sendSenderKeyMessage now record body
  · exact (local_localSiblingPayload now _).bind fun _ =>
      (local_localSiblingPayload now _).bind fun _ =>
        (local_fanoutPayload now _ (fun _ h => by cases h)).bind fun _ => Local.pure _

omit [DecidableEq T] [Primitives K T] [InvitePrimitives K T] [GroupPayloadCodec K T] in
/-- The commands a repair answer may hold: a distribution comes from a local record and from
a snapshot the requester is a recipient of. -/
def Repairable (manager : GroupManager K) (requester : OwnerPubkey K)
    (command : GroupPairwiseCommand K T) : Prop :=
  ∀ distribution, command = .senderKeyDistribution distribution →
    ∃ id record snapshot, id.senderOwner = manager.localOwnerPubkey ∧
      manager.senderKeys.get? id = some record ∧ record.senderEventSecretKey.isSome ∧
      snapshot ∈ record.repairSnapshots ∧ requester ∈ snapshot.recipients ∧
      snapshot.distribution = distribution

omit [DecidableEq T] in
theorem repairPayloadToOwner_reaches (now : UnixSeconds) {requester : OwnerPubkey K}
    {command : GroupPairwiseCommand K T} {s : GroupWorld K T}
    (h : Repairable s.manager requester command) :
    s.Reaches (exec (repairPayloadToOwner now requester command) s).2 ∧
      (exec (repairPayloadToOwner now requester command) s).2.manager = s.manager := by
  unfold repairPayloadToOwner manager
  rw [exec_read_bind]
  split
  · have hend : s.Reaches (exec (localSiblingPayload now command) s).2 ∧
        (exec (localSiblingPayload now command) s).2.manager = s.manager := by
      refine ⟨local_localSiblingPayload now command s, ?_⟩
      obtain hpublished | hpublished := localSiblingPayload_published now command s
      · exact hpublished.manager
      · exact hpublished.manager
    generalize hrun : exec (localSiblingPayload now command) s = outcome at hend
    obtain ⟨_ | prepared, t⟩ := outcome
    · rw [exec_bind_error hrun]
      exact hend
    · rw [exec_bind_ok hrun]
      exact hend
  · generalize hrun : exec (fanoutPayload now [requester] command) s = outcome
    obtain ⟨result, t⟩ := outcome
    have hend : s.Reaches t ∧ t.manager = s.manager := by
      obtain ⟨prepared, -, hpublished⟩ | ⟨-, hpublished⟩ := fanoutPayload_published hrun
      · refine ⟨GroupWorld.Reaches.of_effect hpublished.sessions ?_, hpublished.manager⟩
        rw [hpublished.trail]
        by_cases hcommand : ∃ distribution, command = .senderKeyDistribution distribution
        · obtain ⟨distribution, rfl⟩ := hcommand
          obtain ⟨id, record, snapshot, howner, hrecord, hsecret, hsnapshot, hrecipient, rfl⟩ :=
            h distribution rfl
          exact GroupEffect.repaired s.toGroupTrail requester id record snapshot howner hrecord
            hsecret hsnapshot hrecipient
        · exact GroupEffect.announced s.toGroupTrail [requester] command
            (fun distribution heq => hcommand ⟨distribution, heq⟩)
      · exact ⟨hpublished.reaches, hpublished.manager⟩
    cases result with
    | error e =>
        rw [exec_bind_error hrun]
        exact hend
    | ok prepared =>
        rw [exec_bind_ok hrun]
        exact hend

theorem repairPayloads_reaches (now : UnixSeconds) {requester : OwnerPubkey K}
    {commands : List (GroupPairwiseCommand K T)} (prepared : GroupPreparedSend K T)
    {s : GroupWorld K T} (h : ∀ command ∈ commands, Repairable s.manager requester command) :
    s.Reaches (exec (repairPayloads now requester commands prepared) s).2 := by
  induction commands generalizing prepared s with
  | nil => exact GroupWorld.Reaches.refl s
  | cons command rest ih =>
      rw [repairPayloads]
      have hfirst := repairPayloadToOwner_reaches now (h command List.mem_cons_self)
      refine Moves.bind_at (fun _ _ _ hst htu => hst.trans htu) hfirst.1 fun next t hrun => ?_
      rw [hrun] at hfirst
      refine ih _ ?_
      intro command' hmem
      rw [hfirst.2]
      exact h command' (List.mem_cons_of_mem _ hmem)

omit [LinearOrder K] [DecidableEq T] [Primitives K T] [InvitePrimitives K T]
  [GroupPayloadCodec K T] in
theorem latestSnapshot_mem {snapshots : List (GroupSenderKeyRepairSnapshot K)}
    {snapshot : GroupSenderKeyRepairSnapshot K}
    (h : SenderKeyRecord.latestSnapshot snapshots = some snapshot) : snapshot ∈ snapshots := by
  induction snapshots generalizing snapshot with
  | nil => cases h
  | cons first rest ih =>
      rw [SenderKeyRecord.latestSnapshot] at h
      split at h
      · cases h
        exact List.mem_cons_self
      · rename_i best hbest
        split at h
        · cases h
          exact List.mem_cons_of_mem _ (ih hbest)
        · cases h
          exact List.mem_cons_self

omit [DecidableEq T] [Primitives K T] [InvitePrimitives K T] [GroupPayloadCodec K T] in
/-- A repair answer is taken from the snapshots the requester is a recipient of. -/
theorem repairable_repairResponse {manager : GroupManager K} {record : GroupRecord K}
    {requester : OwnerPubkey K} {request : SenderKeyRepairRequest K}
    {distribution : SenderKeyDistribution K}
    (h : distribution ∈ (manager.repairResponse record requester request).1) :
    Repairable (T := T) manager requester (.senderKeyDistribution distribution) := by
  intro distribution' heq
  cases heq
  unfold GroupManager.repairResponse at h
  dsimp only at h
  split at h
  · cases h
  · rename_i senderRecord hsender
    obtain ⟨hbind, hsecret⟩ := Option.filter_eq_some_iff.mp hsender
    obtain ⟨id, hid, hrecord⟩ := Option.bind_eq_some_iff.mp hbind
    obtain ⟨-, hlocal⟩ := Option.filter_eq_some_iff.mp hid
    simp only [Bool.and_eq_true, decide_eq_true_eq] at hlocal
    have hsnapshot : ∃ snapshot ∈ senderRecord.repairSnapshots,
        requester ∈ snapshot.recipients ∧ snapshot.distribution = distribution := by
      dsimp only at h
      split at h
      · unfold SenderKeyRecord.repairDistributionFor at h
        rw [Option.mem_toList] at h
        obtain ⟨snapshot, hlatest, rfl⟩ := Option.map_eq_some_iff.mp h
        obtain ⟨hmem, hcheck⟩ := List.mem_filter.mp (latestSnapshot_mem hlatest)
        simp only [Bool.and_eq_true, List.contains_iff_mem] at hcheck
        exact ⟨snapshot, hmem, hcheck.2, rfl⟩
      · unfold SenderKeyRecord.repairDistributionsForRequester at h
        obtain ⟨snapshot, hfilter, rfl⟩ := List.mem_map.mp h
        obtain ⟨hmem, hcheck⟩ := List.mem_filter.mp hfilter
        exact ⟨snapshot, hmem, List.contains_iff_mem.mp hcheck, rfl⟩
    obtain ⟨snapshot, hmem, hrecipient, hdistribution⟩ := hsnapshot
    exact ⟨id, senderRecord, snapshot, hlocal.2, hrecord, hsecret, hmem, hrecipient,
      hdistribution⟩

theorem local_respondToSenderKeyRepairRequest (now : UnixSeconds) (requester : OwnerPubkey K)
    (request : SenderKeyRepairRequest K) :
    Local (respondToSenderKeyRepairRequest (T := T) now requester request) := by
  intro s
  unfold respondToSenderKeyRepairRequest manager
  rw [exec_read_bind]
  split
  · exact GroupWorld.Reaches.refl s
  · rename_i record hrecord
    split
    · exact GroupWorld.Reaches.refl s
    · generalize hresponse : s.manager.repairResponse record requester request = response
      obtain ⟨distributions, includeMetadata⟩ := response
      refine repairPayloads_reaches now _ ?_
      intro command hmem
      obtain hdistribution | hmetadata := List.mem_append.mp hmem
      · obtain ⟨distribution, hin, rfl⟩ := List.mem_map.mp hdistribution
        have hresponded :
            distribution ∈ (s.manager.repairResponse record requester request).1 := by
          rw [hresponse]
          exact hin
        exact repairable_repairResponse hresponded
      · split at hmetadata
        · rw [List.mem_singleton] at hmetadata
          subst hmetadata
          intro distribution heq
          cases heq
        · cases hmetadata

/-- What any local operation does to the world. -/
theorem performsFrom_perform (now : UnixSeconds) (operation : GroupOperation K T)
    (s : GroupWorld K T) :
    PerformsFrom (operation.drawnGroupId s.rng) s.manager (perform now operation) s := by
  cases operation with
  | createGroup name initialMembers protocol =>
      exact (performsFrom_createGroupWithProtocol now name initialMembers protocol s).map _
  | retryCreateGroup groupId recipients =>
      exact ((local_retryCreateGroup now groupId recipients).map _).performsFrom s
  | syncGroupToLocalSiblings groupId =>
      have hsync : Local (syncGroupToLocalSiblings (T := T) (K := K) now groupId) :=
        (local_groupRecord groupId).bind fun record => local_localSiblingPayload now _
      exact (hsync.map _).performsFrom s
  | sendMessage groupId body => exact ((local_sendMessage now groupId body).map _).performsFrom s
  | requestSenderKeyRepair request =>
      exact ((local_requestSenderKeyRepair now request).map _).performsFrom s
  | respondToSenderKeyRepairRequest requester request =>
      exact ((local_respondToSenderKeyRepairRequest now requester request).map _).performsFrom s
  | updateName groupId name =>
      exact (performsFrom_updateMetadataWith now groupId
        (fun _ _ _ _ _ _ h => GroupRecord.applyRename_edited h) s).map _
  | updatePicture groupId picture =>
      exact (performsFrom_updateMetadataWith now groupId
        (fun _ _ _ _ _ _ h => GroupRecord.applyPictureChange_edited h) s).map _
  | updateAbout groupId about =>
      exact (performsFrom_updateMetadataWith now groupId
        (fun _ _ _ _ _ _ h => GroupRecord.applyAboutChange_edited h) s).map _
  | retryUpdateName groupId => exact ((local_retryUpdateName now groupId).map _).performsFrom s
  | addMembers groupId members => exact (performsFrom_addMembers now groupId members s).map _
  | retryAddMembers groupId members =>
      exact ((local_retryAddMembers now groupId members).map _).performsFrom s
  | removeMembers groupId members =>
      exact (performsFrom_removeMembers now groupId members s).map _
  | retryRemoveMembers groupId members =>
      exact ((local_retryRemoveMembers now groupId members).map _).performsFrom s
  | addAdmins groupId admins =>
      refine PerformsFrom.map (PerformsFrom.bind_ofExcept fun additions _ => ?_) _
      exact performsFrom_updateMetadataWith now groupId
        (fun _ _ _ _ _ _ h => GroupRecord.applyAddAdmins_edited h) s
  | removeAdmins groupId admins =>
      refine PerformsFrom.map (PerformsFrom.bind_ofExcept fun removals _ => ?_) _
      exact performsFrom_updateMetadataWith now groupId
        (fun _ _ _ _ _ _ h => GroupRecord.applyRemoveAdmins_edited h) s

end Operations

end GroupM

namespace GroupRecord

/-- What a record built from a snapshot satisfies. -/
theorem fromSnapshot_eq_ok {snapshot : GroupSnapshot K} {record : GroupRecord K}
    (h : fromSnapshot snapshot = .ok record) :
    record.WellFormed ∧ validateSupportedProtocol record.protocol = .ok () ∧
      record.groupId = snapshot.groupId := by
  unfold fromSnapshot at h
  simp only [except_bind_eq_ok] at h
  obtain ⟨members, -, admins, -, _, hprotocol, _, hvalid, hrecord⟩ := h
  obtain ⟨hmembers, hadmins, hsubset⟩ := validateGroupInvariants_eq_ok.mp hvalid
  cases hrecord
  exact ⟨⟨hmembers, hadmins, hsubset⟩, hprotocol, rfl⟩

theorem fromMetadataSnapshot_eq_ok {snapshot : GroupSnapshot K} {record : GroupRecord K}
    (h : fromMetadataSnapshot snapshot = .ok record) :
    fromSnapshot snapshot = .ok record ∧ record.revision ≠ 0 := by
  unfold fromMetadataSnapshot at h
  simp only [except_bind_eq_ok, ensure_eq_ok, decide_eq_true_eq] at h
  obtain ⟨found, hfound, _, -, _, hrevision, hrecord⟩ := h
  cases hrecord
  exact ⟨hfound, hrevision⟩

end GroupRecord

/-- A call a group manager can get: a local operation, a payload from a pairwise session, a
sender-key message, a plan to apply, or a restart from its own snapshot. -/
inductive GroupAction (K T : Type) [LinearOrder K] where
  | perform (now : UnixSeconds) (operation : GroupOperation K T) (sessions : SessionManager K T)
      (rng : GroupRng K)
  | payload (senderOwner : OwnerPubkey K) (senderDevice : Option (DevicePubkey K)) (payload : T)
  | senderKeyMessage (message : GroupSenderKeyMessage K T)
  | applyPlan (plan : GroupSenderKeyReceivePlan K T)
  | restore

namespace GroupManager

/-- The manager a restart leaves. -/
def restart (manager : GroupManager K) : GroupManager K :=
  match fromSnapshot manager.snapshot with
  | .ok next => next
  | .error _ => manager

section Incoming

variable [Primitives K T]

/-- A metadata snapshot is stored or changes nothing. -/
theorem handleMetadataSnapshot_cases {manager next : GroupManager K}
    {senderOwner : OwnerPubkey K} {snapshot : GroupSnapshot K}
    {event : Option (GroupIncomingEvent K T)}
    (h : manager.handleMetadataSnapshot senderOwner snapshot = .ok (event, next)) :
    next = manager ∨ ∃ record, GroupRecord.fromMetadataSnapshot snapshot = .ok record ∧
      next = manager.setGroup record.groupId record ∧
      (∀ existing, manager.groups.get? record.groupId = some existing →
        existing.protocol = record.protocol ∧ existing.revision < record.revision ∧
          (senderOwner = manager.localOwnerPubkey ∨ senderOwner ∈ existing.admins)) := by
  unfold handleMetadataSnapshot at h
  obtain ⟨record, hrecord, h⟩ := except_bind_eq_ok.mp h
  dsimp only at h
  split at h
  · rename_i existing hexisting
    split at h
    · cases h
    · rename_i hprotocol
      split at h
      · cases h
        exact Or.inl rfl
      · rename_i hnewer
        split at h
        · cases h
        · rename_i hconflict
          split at h
          · cases h
          · rename_i hsender
            cases h
            refine Or.inr ⟨record, hrecord, rfl, ?_⟩
            intro existing' hget
            rw [hexisting] at hget
            cases hget
            refine ⟨not_not.mp hprotocol, ?_, ?_⟩
            · have hle : existing.revision ≤ record.revision :=
                not_lt.mp fun hlt => hnewer (Or.inl hlt)
              exact lt_of_le_of_ne hle (Ne.symm hconflict)
            · by_cases hself : senderOwner = manager.localOwnerPubkey
              · exact Or.inl hself
              · exact Or.inr (by simpa [hself] using hsender)
  · rename_i hnone
    split at h
    · cases h
      exact Or.inl rfl
    · split at h
      · cases h
      · cases h
        refine Or.inr ⟨record, hrecord, rfl, ?_⟩
        intro existing hget
        rw [hnone] at hget
        cases hget

theorem observeSenderKeyDistribution_cases {manager next : GroupManager K}
    {senderOwner : OwnerPubkey K} {senderDevice : DevicePubkey K}
    {distribution : SenderKeyDistribution K}
    (h : manager.observeSenderKeyDistribution senderOwner senderDevice distribution = .ok next) :
    next = manager ∨ ∃ resolved,
      manager.resolveDuplicate ⟨distribution.groupId, senderOwner, senderDevice⟩ distribution =
        some resolved ∧
      next = resolved.storeDistribution ⟨distribution.groupId, senderOwner, senderDevice⟩
        distribution := by
  unfold observeSenderKeyDistribution at h
  obtain ⟨group, -, h⟩ := except_bind_eq_ok.mp h
  dsimp only at h
  split at h
  · cases h
    exact Or.inl rfl
  · obtain ⟨_, -, h⟩ := except_bind_eq_ok.mp h
    cases hresolve : manager.resolveDuplicate ⟨distribution.groupId, senderOwner, senderDevice⟩
        distribution with
    | none =>
        rw [hresolve] at h
        cases h
        exact Or.inl rfl
    | some resolved =>
        rw [hresolve] at h
        cases h
        exact Or.inr ⟨resolved, rfl, rfl⟩

variable [GroupPayloadCodec K T]

/-- What a payload can do: store a group snapshot or observe a distribution. -/
theorem handlePairwisePayloadInner_cases {manager next : GroupManager K}
    {senderOwner : OwnerPubkey K} {senderDevice : Option (DevicePubkey K)} {payload : T}
    {event : Option (GroupIncomingEvent K T)}
    (h : manager.handlePairwisePayloadInner senderOwner senderDevice payload =
      .ok (event, next)) :
    next = manager ∨
    (∃ snapshot,
      GroupPayloadCodec.decodePairwiseCommand (K := K) payload =
        .ok (some (.metadataSnapshot snapshot)) ∧
      manager.handleMetadataSnapshot senderOwner snapshot = .ok (event, next)) ∨
    ∃ device distribution, senderDevice = some device ∧
      GroupPayloadCodec.decodePairwiseCommand (K := K) payload =
        .ok (some (.senderKeyDistribution distribution)) ∧
      manager.observeSenderKeyDistribution senderOwner device distribution = .ok next := by
  unfold handlePairwisePayloadInner at h
  obtain ⟨command, hdecode, h⟩ := except_bind_eq_ok.mp h
  cases command with
  | none =>
      cases h
      exact Or.inl rfl
  | some command =>
      cases command with
      | metadataSnapshot snapshot => exact Or.inr (Or.inl ⟨snapshot, hdecode, h⟩)
      | groupMessage groupId revision body =>
          obtain ⟨_, -, h⟩ := except_bind_eq_ok.mp h
          cases h
          exact Or.inl rfl
      | senderKeyDistribution distribution =>
          change manager.handleSenderKeyDistribution senderOwner senderDevice distribution = _ at h
          unfold handleSenderKeyDistribution at h
          cases senderDevice with
          | none => cases h
          | some device =>
              obtain ⟨observed, hobserved, h⟩ := except_bind_eq_ok.mp h
              obtain ⟨group, -, h⟩ := except_bind_eq_ok.mp h
              cases h
              exact Or.inr (Or.inr ⟨device, distribution, rfl, hdecode, hobserved⟩)
      | senderKeyRepairRequest request =>
          obtain ⟨_, -, h⟩ := except_bind_eq_ok.mp h
          cases h
          exact Or.inl rfl

end Incoming

/-- A plan replaces one state in the record of a remote sender. -/
theorem applySenderKeyReceivePlan_cases {manager next : GroupManager K}
    {plan : GroupSenderKeyReceivePlan K T} {result : GroupSenderKeyHandleResult K T}
    (h : manager.applySenderKeyReceivePlan plan = .ok (result, next)) :
    next = manager ∨ ∃ mutation record, plan.mutation = some mutation ∧
      manager.senderKeys.get? mutation.identity = some record ∧
      record.senderEventSecretKey = none ∧
      record.states.get? mutation.expected.keyId = some mutation.expected ∧
      next = manager.setSenderKey mutation.identity { record with
        states := record.states.insert mutation.next.keyId mutation.next } := by
  unfold applySenderKeyReceivePlan at h
  split at h
  · cases h
    exact Or.inl rfl
  · rename_i mutation hmutation
    split at h
    · cases h
    · split at h
      · cases h
      · rename_i record hrecord
        split at h
        · cases h
        · rename_i hcheck
          simp only [Bool.or_eq_true, not_or, Bool.not_eq_true,
            not_not, decide_eq_true_eq, Option.isSome_eq_false_iff, Option.isNone_iff_eq_none]
            at hcheck
          cases h
          refine Or.inr ⟨mutation, record, hmutation, hrecord, ?_, ?_, rfl⟩
          · simpa using hcheck.1.2
          · simpa using hcheck.2

section Receiving

variable [DecidableEq T] [Primitives K T] [GroupPayloadCodec K T]

theorem handleSenderKeyMessage_applies {manager next : GroupManager K}
    {message : GroupSenderKeyMessage K T} {result : GroupSenderKeyHandleResult K T}
    (h : manager.handleSenderKeyMessage message = .ok (result, next)) :
    ∃ plan, manager.applySenderKeyReceivePlan plan = .ok (result, next) := by
  unfold handleSenderKeyMessage handleSenderKeyMessageWithBudget at h
  generalize manager.planSenderKeyMessageWithBudget message none usizeMax = planned at h
  obtain ⟨_ | _ | plan, cursor, remaining⟩ := planned
  · cases h
  · cases h
  · refine ⟨plan, ?_⟩
    dsimp only at h
    generalize manager.applySenderKeyReceivePlan plan = applied at h
    obtain _ | ⟨result', next'⟩ := applied
    · cases h
    · cases h
      rfl

end Receiving

/-! A restart. -/

/-- Every group is stored under its id, is well formed, and has a protocol that the crate
supports. -/
structure GroupsValid (manager : GroupManager K) : Prop where
  groupId : ∀ id record, manager.groups.get? id = some record → record.groupId = id
  wellFormed : ∀ id record, manager.groups.get? id = some record → record.WellFormed
  protocol : ∀ id record, manager.groups.get? id = some record →
    validateSupportedProtocol record.protocol = .ok ()

theorem groupsValid_new (owner : OwnerPubkey K) : (GroupManager.new owner).GroupsValid :=
  ⟨(fun _ _ h => by cases h), (fun _ _ h => by cases h), (fun _ _ h => by cases h)⟩

theorem GroupsValid.setGroup {manager : GroupManager K} (hvalid : manager.GroupsValid)
    {record : GroupRecord K} (hwell : record.WellFormed)
    (hprotocol : validateSupportedProtocol record.protocol = .ok ()) :
    (manager.setGroup record.groupId record).GroupsValid := by
  have hget : ∀ id found, (manager.setGroup record.groupId record).groups.get? id = some found →
      (id = record.groupId ∧ found = record) ∨ manager.groups.get? id = some found := by
    intro id found h
    rw [GroupManager.setGroup, SortedMap.get?_insert] at h
    split at h
    · cases h
      exact Or.inl ⟨Eq.symm ‹_›, rfl⟩
    · exact Or.inr h
  refine ⟨?_, ?_, ?_⟩
  · intro id found h
    obtain ⟨rfl, rfl⟩ | hold := hget id found h
    · rfl
    · exact hvalid.groupId id found hold
  · intro id found h
    obtain ⟨rfl, rfl⟩ | hold := hget id found h
    · exact hwell
    · exact hvalid.wellFormed id found hold
  · intro id found h
    obtain ⟨rfl, rfl⟩ | hold := hget id found h
    · exact hprotocol
    · exact hvalid.protocol id found hold

/-- The validity of the groups depends on the groups alone. -/
theorem GroupsValid.of_groups_eq {manager next : GroupManager K} (hvalid : manager.GroupsValid)
    (hgroups : next.groups = manager.groups) : next.GroupsValid := by
  refine ⟨?_, ?_, ?_⟩
  · rw [hgroups]
    exact hvalid.groupId
  · rw [hgroups]
    exact hvalid.wellFormed
  · rw [hgroups]
    exact hvalid.protocol

private theorem groupsFromSnapshot_entries (entries stored : List (String × GroupRecord K))
    (hkeys : ((stored ++ entries).map Prod.fst).Nodup)
    (hentries : ∀ entry ∈ entries, entry.2.groupId = entry.1 ∧
      GroupRecord.fromSnapshot entry.2.snapshot = .ok entry.2) :
    groupsFromSnapshot (entries.map (fun entry => entry.2.snapshot)) (SortedMap.ofList stored) =
      .ok (SortedMap.ofList (stored ++ entries)) := by
  induction entries generalizing stored with
  | nil => rw [List.append_nil]; rfl
  | cons entry rest ih =>
      obtain ⟨hid, hfrom⟩ := hentries entry List.mem_cons_self
      have habsent : (SortedMap.ofList stored).contains entry.2.groupId = false := by
        rw [hid, SortedMap.contains, Option.isSome_eq_false_iff, Option.isNone_iff_eq_none,
          SortedMap.get?_eq_none]
        intro value hmem
        have hstored := SortedMap.mem_of_get?_ofList (SortedMap.mem_entries.mp hmem)
        rw [List.map_append, List.map_cons] at hkeys
        exact (List.disjoint_of_nodup_append hkeys) (List.mem_map_of_mem hstored)
          List.mem_cons_self
      have hstep : (SortedMap.ofList stored).insert entry.2.groupId entry.2 =
          SortedMap.ofList (stored ++ [entry]) := by
        rw [hid, SortedMap.ofList, SortedMap.ofList, List.foldl_append]
        rfl
      rw [List.map_cons, groupsFromSnapshot, hfrom]
      change (ensure (!(SortedMap.ofList stored).contains entry.2.groupId) _ >>= fun _ => _) = _
      rw [habsent, hstep]
      change groupsFromSnapshot _ _ = _
      rw [ih (stored ++ [entry]) (by simpa using hkeys)
        (fun e he => hentries e (List.mem_cons_of_mem _ he)), List.append_assoc]
      rfl

theorem ofList_entries {α β : Type} [LinearOrder α] (m : SortedMap α β) :
    SortedMap.ofList m.entries = m :=
  SortedMap.eq_of_entries (SortedMap.entries_ofList m.sorted)

/-- The groups are read back from their snapshots. -/
theorem groupsFromSnapshot_snapshot {manager : GroupManager K} (hvalid : manager.GroupsValid) :
    groupsFromSnapshot manager.snapshot.groups SortedMap.empty = .ok manager.groups := by
  have hread := groupsFromSnapshot_entries manager.groups.entries []
    manager.groups.nodup_keys (fun entry hmem => by
      have hget := SortedMap.mem_entries.mp hmem
      exact ⟨hvalid.groupId _ _ hget, GroupRecord.fromSnapshot_snapshot
        (hvalid.wellFormed _ _ hget) (hvalid.protocol _ _ hget)⟩)
  rw [List.nil_append, ofList_entries] at hread
  change groupsFromSnapshot (manager.groups.values.map GroupRecord.snapshot) _ = _
  rw [SortedMap.values, List.map_map]
  exact hread

theorem restoreSenderKey_frame {manager next : GroupManager K} {record : SenderKeyRecord K}
    (h : manager.restoreSenderKey record = .ok next) :
    next.groups = manager.groups ∧ next.localOwnerPubkey = manager.localOwnerPubkey := by
  unfold restoreSenderKey at h
  dsimp only at h
  split at h
  · cases h
  · split at h
    · cases h
      exact ⟨rfl, rfl⟩
    · split at h
      · cases h
      · split at h
        · cases h
          exact ⟨rfl, rfl⟩
        · cases h
          exact ⟨rfl, rfl⟩

theorem senderKeysFromSnapshot_frame {snapshots : List (GroupSenderKeyRecordSnapshot K)}
    {manager next : GroupManager K} (h : senderKeysFromSnapshot snapshots manager = .ok next) :
    next.groups = manager.groups ∧ next.localOwnerPubkey = manager.localOwnerPubkey := by
  induction snapshots generalizing manager with
  | nil =>
      cases h
      exact ⟨rfl, rfl⟩
  | cons snapshot rest ih =>
      obtain ⟨record, -, h⟩ := except_bind_eq_ok.mp h
      obtain ⟨mid, hmid, h⟩ := except_bind_eq_ok.mp h
      obtain ⟨hgroups, hlocal⟩ := restoreSenderKey_frame hmid
      obtain ⟨hgroups', hlocal'⟩ := ih h
      exact ⟨hgroups'.trans hgroups, hlocal'.trans hlocal⟩

theorem GroupsValid.restart_frame {manager : GroupManager K} (hvalid : manager.GroupsValid) :
    manager.restart.groups = manager.groups ∧
      manager.restart.localOwnerPubkey = manager.localOwnerPubkey := by
  unfold restart
  cases hrestored : fromSnapshot manager.snapshot with
  | error error => exact ⟨rfl, rfl⟩
  | ok next =>
      unfold fromSnapshot at hrestored
      rw [groupsFromSnapshot_snapshot hvalid] at hrestored
      obtain ⟨hgroups, hlocal⟩ := senderKeysFromSnapshot_frame hrestored
      exact ⟨hgroups, hlocal⟩

end GroupManager

namespace GroupTrail

variable [DecidableEq T] [Primitives K T] [InvitePrimitives K T] [GroupPayloadCodec K T]

/-- The trail after a call. -/
def act (trail : GroupTrail K T) : GroupAction K T → GroupTrail K T
  | .perform now operation sessions rng =>
      (Program.exec (GroupM.perform now operation) ⟨trail, sessions, rng⟩).2.toGroupTrail
  | .payload senderOwner senderDevice payload => trail.onManager fun manager =>
      manager.after (manager.handlePairwisePayloadInner senderOwner senderDevice payload)
  | .senderKeyMessage message => trail.onManager fun manager =>
      manager.after (manager.handleSenderKeyMessage message)
  | .applyPlan plan => trail.onManager fun manager =>
      manager.after (manager.applySenderKeyReceivePlan plan)
  | .restore => trail.onManager GroupManager.restart

def run (trail : GroupTrail K T) (actions : List (GroupAction K T)) : GroupTrail K T :=
  actions.foldl act trail

end GroupTrail

/-- A manager that has done nothing. -/
def GroupTrail.new (owner : OwnerPubkey K) : GroupTrail K T := ⟨GroupManager.new owner, []⟩

end NostrDoubleRatchet
