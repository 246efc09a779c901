import NostrDoubleRatchet.Group.Authority

/-!
The revision of a group. A local edit of the metadata stores the next revision and fans its
snapshot out to peers that take a higher revision only. The next revision of the largest one
a record can hold is zero.
-/

namespace NostrDoubleRatchet

variable {K T : Type} [LinearOrder K]

/-- The operations that edit the metadata of group `groupId`. -/
inductive GroupOperation.EditsMetadata (groupId : String) : GroupOperation K T → Prop
  | updateName (name : String) : EditsMetadata groupId (.updateName groupId name)
  | updatePicture (picture : Option String) : EditsMetadata groupId (.updatePicture groupId picture)
  | updateAbout (about : Option String) : EditsMetadata groupId (.updateAbout groupId about)
  | addMembers (members : List (OwnerPubkey K)) :
      EditsMetadata groupId (.addMembers groupId members)
  | removeMembers (members : List (OwnerPubkey K)) :
      EditsMetadata groupId (.removeMembers groupId members)
  | addAdmins (admins : List (OwnerPubkey K)) : EditsMetadata groupId (.addAdmins groupId admins)
  | removeAdmins (admins : List (OwnerPubkey K)) :
      EditsMetadata groupId (.removeAdmins groupId admins)

theorem u64Succ_eq_succ_iff (n : Nat) : u64Succ n = n + 1 ↔ n < u64Max := by
  unfold u64Succ u64Max
  omega

variable [DecidableEq T] [Primitives K T] [InvitePrimitives K T] [GroupPayloadCodec K T]

/-- The edit an operation makes of the record of the group. -/
inductive GroupOperation.Edits (groupId : String) (actor : OwnerPubkey K) (now : UnixSeconds)
    (current next : GroupRecord K) : GroupOperation K T → Prop
  | updateName (name : String)
      (h : current.applyRename actor name current.revision (u64Succ current.revision) now =
        .ok next) :
      Edits groupId actor now current next (.updateName groupId name)
  | updatePicture (picture : Option String)
      (h : current.applyPictureChange actor picture current.revision (u64Succ current.revision)
        now = .ok next) :
      Edits groupId actor now current next (.updatePicture groupId picture)
  | updateAbout (about : Option String)
      (h : current.applyAboutChange actor about current.revision (u64Succ current.revision) now =
        .ok next) :
      Edits groupId actor now current next (.updateAbout groupId about)
  | addMembers (members : List (OwnerPubkey K)) (additions : SortedSet (OwnerPubkey K))
      (hadditions : validateUniqueOwners members "members" = .ok additions)
      (h : current.applyAddMembers actor additions current.revision (u64Succ current.revision)
        now = .ok next) :
      Edits groupId actor now current next (.addMembers groupId members)
  | removeMembers (members : List (OwnerPubkey K)) (removals : SortedSet (OwnerPubkey K))
      (hremovals : validateUniqueOwners members "members" = .ok removals)
      (h : current.applyRemoveMembers actor removals current.revision
        (u64Succ current.revision) now = .ok next) :
      Edits groupId actor now current next (.removeMembers groupId members)
  | addAdmins (admins : List (OwnerPubkey K)) (additions : SortedSet (OwnerPubkey K))
      (hadditions : validateUniqueOwners admins "admins" = .ok additions)
      (h : current.applyAddAdmins actor additions current.revision (u64Succ current.revision)
        now = .ok next) :
      Edits groupId actor now current next (.addAdmins groupId admins)
  | removeAdmins (admins : List (OwnerPubkey K)) (removals : SortedSet (OwnerPubkey K))
      (hremovals : validateUniqueOwners admins "admins" = .ok removals)
      (h : current.applyRemoveAdmins actor removals current.revision (u64Succ current.revision)
        now = .ok next) :
      Edits groupId actor now current next (.removeAdmins groupId admins)

omit [DecidableEq T] [InvitePrimitives K T] [GroupPayloadCodec K T] in
theorem GroupOperation.Edits.edited {groupId : String} {actor : OwnerPubkey K}
    {now : UnixSeconds} {current next : GroupRecord K} {operation : GroupOperation K T}
    (h : operation.Edits groupId actor now current next) :
    GroupRecord.Edited actor current next := by
  cases h with
  | updateName name h => exact GroupRecord.applyRename_edited h
  | updatePicture picture h => exact GroupRecord.applyPictureChange_edited h
  | updateAbout about h => exact GroupRecord.applyAboutChange_edited h
  | addMembers members additions hadditions h => exact GroupRecord.applyAddMembers_edited h
  | removeMembers members removals hremovals h => exact GroupRecord.applyRemoveMembers_edited h
  | addAdmins admins additions hadditions h => exact GroupRecord.applyAddAdmins_edited h
  | removeAdmins admins removals hremovals h => exact GroupRecord.applyRemoveAdmins_edited h

omit [DecidableEq T] [Primitives K T] [InvitePrimitives K T] [GroupPayloadCodec K T] in
/-- Whom an edit is announced to: the members it leaves, or those it removes as well. -/
def GroupOperation.recipients (actor : OwnerPubkey K) (current next : GroupRecord K) :
    GroupOperation K T → List (OwnerPubkey K)
  | .removeMembers _ _ => current.remoteMembers actor
  | _ => next.remoteMembers actor

omit [DecidableEq T] [Primitives K T] [InvitePrimitives K T] [GroupPayloadCodec K T] in
theorem GroupOperation.recipients_cases (operation : GroupOperation K T) (actor : OwnerPubkey K)
    (current next : GroupRecord K) :
    operation.recipients actor current next = next.remoteMembers actor ∨
      operation.recipients actor current next = current.remoteMembers actor := by
  unfold recipients
  split
  · exact Or.inr rfl
  · exact Or.inl rfl

namespace GroupM

open Program

/-- An edit that succeeds: the record of `groupId` is edited, the snapshot of the new record is
fanned out to the members of the group, and the new record is stored. -/
structure Revises (now : UnixSeconds) (groupId : String) (s t : GroupWorld K T)
    (current next : GroupRecord K) : Prop where
  held : s.manager.groups.get? groupId = some current
  edited : GroupRecord.Edited s.manager.localOwnerPubkey current next
  fannedOut : ∃ recipients published mid,
    (recipients = next.remoteMembers s.manager.localOwnerPubkey ∨
      recipients = current.remoteMembers s.manager.localOwnerPubkey) ∧
    exec (publishMetadata now next recipients) s = (.ok published, mid)
  stored : t.manager.groups.get? current.groupId = some next

omit [DecidableEq T] [Primitives K T] [InvitePrimitives K T] [GroupPayloadCodec K T] in
theorem exec_groupRecord {groupId : String} {s t : GroupWorld K T} {record : GroupRecord K}
    (h : exec (groupRecord groupId) s = (.ok record, t)) :
    s.manager.groups.get? groupId = some record ∧ t = s := by
  have hread : exec (groupRecord groupId) s = (s.manager.groupRecord groupId, s) := rfl
  rw [hread] at h
  obtain ⟨hrecord, rfl⟩ := Prod.mk.inj h
  refine ⟨?_, rfl⟩
  unfold GroupManager.groupRecord at hrecord
  split at hrecord
  · cases hrecord
  · rename_i found hfound
    cases hrecord
    exact hfound

omit [DecidableEq T] [Primitives K T] [InvitePrimitives K T] [GroupPayloadCodec K T] in
/-- What the end of an edit leaves: some publishing, and the record stored after it. -/
theorem stored_after_publishing {publish : GroupM K T (GroupPreparedSend K T)}
    {groupId : String} {next : GroupRecord K} {prepared : GroupPreparedSend K T}
    {s t : GroupWorld K T}
    (h : exec (do
      let prepared ← publish
      updateManager (·.setGroup groupId next)
      pure prepared) s = (.ok prepared, t)) :
    (∃ published mid, exec publish s = (.ok published, mid)) ∧
      t.manager.groups.get? groupId = some next := by
  obtain ⟨published, mid, hpublish, hrest⟩ := bind_eq_ok.mp h
  refine ⟨⟨published, mid, hpublish⟩, ?_⟩
  cases hrest
  exact SortedMap.get?_insert_self _ _ _

/-- An operation that succeeds: its edit of the record of `groupId` is announced to its recipients
and stored. -/
structure Publishes (now : UnixSeconds) (groupId : String) (operation : GroupOperation K T)
    (s t : GroupWorld K T) (current next : GroupRecord K) : Prop where
  held : s.manager.groups.get? groupId = some current
  edits : operation.Edits groupId s.manager.localOwnerPubkey now current next
  fannedOut : ∃ published mid, exec (publishMetadata now next
    (operation.recipients s.manager.localOwnerPubkey current next)) s = (.ok published, mid)
  stored : t.manager.groups.get? current.groupId = some next

omit [DecidableEq T] in
theorem Publishes.revises {now : UnixSeconds} {groupId : String} {operation : GroupOperation K T}
    {s t : GroupWorld K T} {current next : GroupRecord K}
    (h : Publishes now groupId operation s t current next) :
    Revises now groupId s t current next := by
  obtain ⟨published, mid, hpublish⟩ := h.fannedOut
  refine ⟨h.held, h.edits.edited, ⟨_, published, mid, ?_, hpublish⟩, h.stored⟩
  exact GroupOperation.recipients_cases operation _ current next

omit [DecidableEq T] in
theorem updateMetadataWith_publishes {now : UnixSeconds} {groupId : String}
    {apply : GroupRecord K → OwnerPubkey K → Nat → Nat → UnixSeconds →
      Except Error (GroupRecord K)}
    {s t : GroupWorld K T} {prepared : GroupPreparedSend K T}
    (h : exec (updateMetadataWith now groupId apply) s = (.ok prepared, t)) :
    ∃ current next, s.manager.groups.get? groupId = some current ∧
      apply current s.manager.localOwnerPubkey current.revision (u64Succ current.revision) now =
        .ok next ∧
      (∃ published mid, exec (publishMetadata now next
        (next.remoteMembers s.manager.localOwnerPubkey)) s = (.ok published, mid)) ∧
      t.manager.groups.get? current.groupId = some next := by
  unfold updateMetadataWith localOwnerPubkey at h
  obtain ⟨current, mid, hrecord, hedit⟩ := bind_eq_ok.mp h
  obtain ⟨hcurrent, rfl⟩ := exec_groupRecord hrecord
  rw [exec_read_bind, exec_ofExcept_bind] at hedit
  split at hedit
  · cases hedit
  · rename_i next hnext
    obtain ⟨hpublish, hstored⟩ := stored_after_publishing hedit
    exact ⟨current, next, hcurrent, hnext, hpublish, hstored⟩

theorem addMembers_publishes {now : UnixSeconds} {groupId : String} {members : List (OwnerPubkey K)}
    {s t : GroupWorld K T} {prepared : GroupPreparedSend K T}
    (h : exec (addMembers now groupId members) s = (.ok prepared, t)) :
    ∃ current next, Publishes now groupId (.addMembers groupId members) s t current next := by
  unfold addMembers localOwnerPubkey at h
  rw [exec_ofExcept_bind] at h
  split at h
  · cases h
  · rename_i additions hadditions
    obtain ⟨current, mid, hrecord, hedit⟩ := bind_eq_ok.mp h
    obtain ⟨hcurrent, rfl⟩ := exec_groupRecord hrecord
    rw [exec_read_bind, exec_ofExcept_bind] at hedit
    split at hedit
    · cases hedit
    · rename_i next hnext
      obtain ⟨published, afterPublish, hpublish, hstore⟩ := bind_eq_ok.mp hedit
      exact ⟨current, next, hcurrent, .addMembers members additions hadditions hnext,
        ⟨published, afterPublish, hpublish⟩, (stored_after_publishing hstore).2⟩

theorem removeMembers_publishes {now : UnixSeconds} {groupId : String}
    {members : List (OwnerPubkey K)} {s t : GroupWorld K T} {prepared : GroupPreparedSend K T}
    (h : exec (removeMembers now groupId members) s = (.ok prepared, t)) :
    ∃ current next, Publishes now groupId (.removeMembers groupId members) s t current next := by
  unfold removeMembers localOwnerPubkey at h
  rw [exec_ofExcept_bind] at h
  split at h
  · cases h
  · rename_i removals hremovals
    obtain ⟨current, mid, hrecord, hedit⟩ := bind_eq_ok.mp h
    obtain ⟨hcurrent, rfl⟩ := exec_groupRecord hrecord
    rw [exec_read_bind, exec_ofExcept_bind] at hedit
    split at hedit
    · cases hedit
    · rename_i next hnext
      obtain ⟨published, afterPublish, hpublish, hstore⟩ := bind_eq_ok.mp hedit
      exact ⟨current, next, hcurrent, .removeMembers members removals hremovals hnext,
        ⟨published, afterPublish, hpublish⟩, (stored_after_publishing hstore).2⟩

/-- Every edit of the metadata that succeeds replaces the record of its group. -/
theorem perform_publishes {now : UnixSeconds} {groupId : String} {operation : GroupOperation K T}
    (hedits : operation.EditsMetadata groupId) {s t : GroupWorld K T} {output : GroupOutput K T}
    (h : exec (perform now operation) s = (.ok output, t)) :
    ∃ current next, Publishes now groupId operation s t current next := by
  have hprepared : ∀ {x : GroupM K T (GroupPreparedSend K T)},
      exec (GroupOutput.prepared <$> x) s = (.ok output, t) →
        ∃ prepared, exec x s = (.ok prepared, t) := by
    intro x hx
    rw [exec_map] at hx
    generalize exec x s = outcome at hx ⊢
    obtain ⟨_ | prepared, mid⟩ := outcome
    · cases hx
    · cases hx
      exact ⟨prepared, rfl⟩
  cases hedits with
  | updateName name =>
      obtain ⟨prepared, hrun⟩ := hprepared h
      obtain ⟨current, next, hheld, hnext, hpublish, hstored⟩ := updateMetadataWith_publishes hrun
      exact ⟨current, next, hheld, .updateName name hnext, hpublish, hstored⟩
  | updatePicture picture =>
      obtain ⟨prepared, hrun⟩ := hprepared h
      obtain ⟨current, next, hheld, hnext, hpublish, hstored⟩ := updateMetadataWith_publishes hrun
      exact ⟨current, next, hheld, .updatePicture picture hnext, hpublish, hstored⟩
  | updateAbout about =>
      obtain ⟨prepared, hrun⟩ := hprepared h
      obtain ⟨current, next, hheld, hnext, hpublish, hstored⟩ := updateMetadataWith_publishes hrun
      exact ⟨current, next, hheld, .updateAbout about hnext, hpublish, hstored⟩
  | addMembers members =>
      obtain ⟨prepared, hrun⟩ := hprepared h
      exact addMembers_publishes hrun
  | removeMembers members =>
      obtain ⟨prepared, hrun⟩ := hprepared h
      exact removeMembers_publishes hrun
  | addAdmins admins =>
      obtain ⟨prepared, hrun⟩ := hprepared h
      unfold addAdmins at hrun
      rw [exec_ofExcept_bind] at hrun
      split at hrun
      · cases hrun
      · rename_i additions hadditions
        obtain ⟨current, next, hheld, hnext, hpublish, hstored⟩ :=
          updateMetadataWith_publishes hrun
        exact ⟨current, next, hheld, .addAdmins admins additions hadditions hnext, hpublish,
          hstored⟩
  | removeAdmins admins =>
      obtain ⟨prepared, hrun⟩ := hprepared h
      unfold removeAdmins at hrun
      rw [exec_ofExcept_bind] at hrun
      split at hrun
      · cases hrun
      · rename_i removals hremovals
        obtain ⟨current, next, hheld, hnext, hpublish, hstored⟩ :=
          updateMetadataWith_publishes hrun
        exact ⟨current, next, hheld, .removeAdmins admins removals hremovals hnext, hpublish,
          hstored⟩

theorem perform_revises {now : UnixSeconds} {groupId : String} {operation : GroupOperation K T}
    (hedits : operation.EditsMetadata groupId) {s t : GroupWorld K T} {output : GroupOutput K T}
    (h : exec (perform now operation) s = (.ok output, t)) :
    ∃ current next, Revises now groupId s t current next := by
  obtain ⟨current, next, hpublishes⟩ := perform_publishes hedits h
  exact ⟨current, next, hpublishes.revises⟩

end GroupM

/-- Whoever holds `current` stores `next` when `sender` announces it. -/
def GroupRecord.AcceptedOver (sender : OwnerPubkey K) (current next : GroupRecord K) : Prop :=
  ∀ (peer : GroupManager K) (device : Option (DevicePubkey K)) (payload : T),
    peer.groups.get? next.groupId = some current →
    GroupPayloadCodec.decodePairwiseCommand (K := K) payload = .ok (some next.metadataPayload) →
    peer.handlePairwisePayloadInner sender device payload =
      .ok (some (.metadataUpdated next.snapshot), peer.setGroup next.groupId next)

omit [DecidableEq T] [InvitePrimitives K T] in
/-- An admin's next revision is taken by every holder of the one before it. -/
theorem GroupRecord.Edited.acceptedOver {sender : OwnerPubkey K} {current next : GroupRecord K}
    (hedited : GroupRecord.Edited sender current next) (hwell : next.WellFormed)
    (hprotocol : validateSupportedProtocol next.protocol = .ok ())
    (hrevision : current.revision < next.revision) :
    GroupRecord.AcceptedOver sender current next := by
  intro peer device payload hheld hpayload
  have hrecord : GroupRecord.fromMetadataSnapshot next.snapshot = .ok next :=
    GroupRecord.fromMetadataSnapshot_snapshot hwell hprotocol (by omega)
  have hnotOlder : ¬(next.revision < current.revision ∨ current = next) := by
    rintro (holder | hsame)
    · omega
    · rw [hsame] at hrevision
      omega
  have hnotSame : ¬next.revision = current.revision := by omega
  unfold GroupManager.handlePairwisePayloadInner
  rw [hpayload]
  change peer.handleMetadataSnapshot sender next.snapshot = _
  unfold GroupManager.handleMetadataSnapshot
  rw [hrecord]
  dsimp only [bind, Except.bind]
  rw [hheld]
  dsimp only
  rw [if_neg (not_not.mpr hedited.protocol.symm), if_neg hnotOlder, if_neg hnotSame,
    if_neg (by simp [hedited.admin])]
  rfl

namespace GroupWire

/-- An admin of the group of the examples announces it at `revision` to owner 1, which is an
admin too. -/
def announcedAt (revision : Nat) : List (GroupAction KeyTerm TextTerm) :=
  [.payload (exampleOwner 2) (some (exampleDevice 2)) (examplePayload 2 (.metadataSnapshot
    { (exampleRecord "team" revision).snapshot with
      admins := [exampleOwner 1, exampleOwner 2] }))]

/-- Owner 1 has the group at `revision`. -/
def worldAt (revision : Nat) : GroupWorld KeyTerm TextTerm :=
  ⟨(GroupTrail.new (exampleOwner 1)).run (announcedAt revision), exampleSessions 1,
    exampleRng 10 "other"⟩

end GroupWire

end NostrDoubleRatchet
