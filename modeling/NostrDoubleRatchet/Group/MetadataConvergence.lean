import NostrDoubleRatchet.Group.Revisions
import NostrDoubleRatchet.Lib.Selection

/-!
The snapshots one admin announces, delivered in any order. A recipient that does not know the
group starts with a snapshot that lists it and the sender as an admin, and takes higher revisions
from there on. So it ends with the newest snapshot, unless that one takes the recipient off the
members or the sender off the admins and never comes after one that lists both.
-/

namespace NostrDoubleRatchet

variable {K T : Type} [LinearOrder K]

namespace GroupRecord

/-- An edit that brings members in leaves the admins as they are. -/
def Narrows (current next : GroupRecord K) : Prop :=
  (∀ owner ∈ next.members, owner ∈ current.members) ∨ next.admins = current.admins

/-- A recipient that does not know the group stores the record. -/
def Admits (sender recipient : OwnerPubkey K) (record : GroupRecord K) : Bool :=
  recipient ∈ record.members && (sender = recipient || sender ∈ record.admins)

theorem mem_remoteMembers {record : GroupRecord K} {actor owner : OwnerPubkey K} :
    owner ∈ record.remoteMembers actor ↔ owner ∈ record.members ∧ owner ≠ actor := by
  unfold remoteMembers
  rw [List.mem_filter, SortedSet.mem_toList, decide_eq_true_eq]

variable [Primitives K T]

omit [Primitives K T] in
theorem Narrows.of_members {current next : GroupRecord K} (h : next.members = current.members) :
    Narrows current next := by
  refine Or.inl ?_
  intro owner howner
  rwa [← h]

/-- The lists of owners that an edit leaves are those its own step makes. -/
theorem applyEdit_eq_ok {record next : GroupRecord K}
    {edit : GroupRecord K → Except Error (GroupRecord K)} {actor : OwnerPubkey K}
    {base new : Nat} {now : UnixSeconds}
    (h : record.applyEdit edit actor base new now = .ok next) :
    ∃ edited, edit record = .ok edited ∧ next.members = edited.members ∧
      next.admins = edited.admins := by
  unfold applyEdit at h
  simp only [except_bind_eq_ok] at h
  obtain ⟨_, -, _, -, edited, hedited, hnext⟩ := h
  cases hnext
  exact ⟨edited, hedited, rfl, rfl⟩

theorem applyRemoveMembers_members {record next : GroupRecord K} {actor : OwnerPubkey K}
    {removals : SortedSet (OwnerPubkey K)} {base new : Nat} {now : UnixSeconds}
    (h : record.applyRemoveMembers actor removals base new now = .ok next) :
    ∀ owner ∈ next.members, owner ∈ record.members := by
  obtain ⟨edited, hedited, hmembers, -⟩ := applyEdit_eq_ok h
  simp only [except_bind_eq_ok] at hedited
  obtain ⟨_, -, _, -, _, -, _, -, hedited⟩ := hedited
  cases hedited
  intro owner howner
  rw [hmembers] at howner
  exact (SortedSet.mem_foldl_erase.mp howner).2

end GroupRecord

section Edits

variable [Primitives K T] {groupId : String} {actor : OwnerPubkey K} {now : UnixSeconds}
  {current next : GroupRecord K} {operation : GroupOperation K T}

theorem GroupOperation.Edits.narrows (h : operation.Edits groupId actor now current next) :
    GroupRecord.Narrows current next := by
  cases h with
  | updateName name h =>
      obtain ⟨edited, hedited, hmembers, -⟩ := GroupRecord.applyEdit_eq_ok h
      cases hedited
      exact GroupRecord.Narrows.of_members hmembers
  | updatePicture picture h =>
      obtain ⟨edited, hedited, hmembers, -⟩ := GroupRecord.applyEdit_eq_ok h
      cases hedited
      exact GroupRecord.Narrows.of_members hmembers
  | updateAbout about h =>
      obtain ⟨edited, hedited, hmembers, -⟩ := GroupRecord.applyEdit_eq_ok h
      cases hedited
      exact GroupRecord.Narrows.of_members hmembers
  | addMembers members additions hadditions h =>
      obtain ⟨edited, hedited, -, hadmins⟩ := GroupRecord.applyEdit_eq_ok h
      simp only [except_bind_eq_ok] at hedited
      obtain ⟨_, -, _, -, hedited⟩ := hedited
      cases hedited
      exact Or.inr hadmins
  | removeMembers members removals hremovals h =>
      exact Or.inl (GroupRecord.applyRemoveMembers_members h)
  | addAdmins admins additions hadditions h =>
      obtain ⟨edited, hedited, hmembers, -⟩ := GroupRecord.applyEdit_eq_ok h
      simp only [except_bind_eq_ok] at hedited
      obtain ⟨_, -, _, -, hedited⟩ := hedited
      cases hedited
      exact GroupRecord.Narrows.of_members hmembers
  | removeAdmins admins removals hremovals h =>
      obtain ⟨edited, hedited, hmembers, -⟩ := GroupRecord.applyEdit_eq_ok h
      simp only [except_bind_eq_ok] at hedited
      obtain ⟨_, -, _, -, _, -, _, -, hedited⟩ := hedited
      cases hedited
      exact GroupRecord.Narrows.of_members hmembers

/-- Every other member an edit leaves hears of it. -/
theorem GroupOperation.Edits.mem_recipients (h : operation.Edits groupId actor now current next)
    {owner : OwnerPubkey K} (hmember : owner ∈ next.members) (hother : owner ≠ actor) :
    owner ∈ operation.recipients actor current next := by
  have hremote := GroupRecord.mem_remoteMembers.mpr ⟨hmember, hother⟩
  cases h with
  | updateName name h => exact hremote
  | updatePicture picture h => exact hremote
  | updateAbout about h => exact hremote
  | addMembers members additions hadditions h => exact hremote
  | removeMembers members removals hremovals h =>
      exact GroupRecord.mem_remoteMembers.mpr
        ⟨GroupRecord.applyRemoveMembers_members h owner hmember, hother⟩
  | addAdmins admins additions hadditions h => exact hremote
  | removeAdmins admins removals hremovals h => exact hremote

end Edits

variable [DecidableEq T] [Primitives K T] [InvitePrimitives K T] [GroupPayloadCodec K T]

namespace GroupM

open Program

/-- A group that is created is announced to its members and stored. -/
theorem createGroupWithProtocol_publishes {now : UnixSeconds} {name : String}
    {initialMembers : List (OwnerPubkey K)} {protocol : GroupProtocol} {s t : GroupWorld K T}
    {result : GroupCreateResult K T}
    (h : exec (createGroupWithProtocol now name initialMembers protocol) s = (.ok result, t)) :
    validateSupportedProtocol protocol = .ok () ∧
      ∃ memberSet record published drawn mid,
        record = newGroupRecord now s.rng.groupIds.head protocol name
          s.manager.localOwnerPubkey memberSet ∧
        exec (publishMetadata now record (record.remoteMembers s.manager.localOwnerPubkey)) drawn =
          (.ok published, mid) ∧
        t.manager.groups.get? s.rng.groupIds.head = some record := by
  unfold createGroupWithProtocol localOwnerPubkey at h
  rw [exec_ofExcept_bind] at h
  split at h
  · cases h
  · rename_i memberSet _
    rw [exec_read_bind, exec_ofExcept_bind] at h
    split at h
    · cases h
    · rw [exec_ofExcept_bind] at h
      split at h
      · cases h
      · rename_i hprotocol
        obtain ⟨groupId, drawn, hdraw, hrest⟩ := bind_eq_ok.mp h
        cases hdraw
        obtain ⟨published, mid, hpublish, hrest⟩ := bind_eq_ok.mp hrest
        obtain ⟨prepared, booted, -, hstore⟩ := bind_eq_ok.mp hrest
        cases hstore
        exact ⟨hprotocol, memberSet, _, published, _, mid, rfl, hpublish,
          SortedMap.get?_insert_self _ _ _⟩

end GroupM

/-- A record of a group, and the owners its snapshot was sent to. -/
structure Announcement (K : Type) [LinearOrder K] where
  record : GroupRecord K
  recipients : List (OwnerPubkey K)

open Program

/-- The announcements of a group that one admin makes and edits, the newest first. -/
inductive AdminHistory (T : Type) [DecidableEq T] [Primitives K T] [InvitePrimitives K T]
    [GroupPayloadCodec K T] (admin : OwnerPubkey K) (groupId : String) :
    List (Announcement K) → Prop
  | created {now : UnixSeconds} {name : String} {initialMembers : List (OwnerPubkey K)}
      {protocol : GroupProtocol} {s t : GroupWorld K T} {result : GroupCreateResult K T}
      {record : GroupRecord K} (hadmin : s.manager.localOwnerPubkey = admin)
      (hdrawn : s.rng.groupIds.head = groupId)
      (hrun : exec (GroupM.createGroupWithProtocol now name initialMembers protocol) s =
        (.ok result, t))
      (hstored : t.manager.groups.get? groupId = some record) :
      AdminHistory T admin groupId [⟨record, record.remoteMembers admin⟩]
  | edited {now : UnixSeconds} {operation : GroupOperation K T} {s t : GroupWorld K T}
      {output : GroupOutput K T} {last : Announcement K} {earlier : List (Announcement K)}
      {record : GroupRecord K} (hhistory : AdminHistory T admin groupId (last :: earlier))
      (hadmin : s.manager.localOwnerPubkey = admin)
      (hheld : s.manager.groups.get? groupId = some last.record)
      (hbelow : last.record.revision < u64Max) (hedits : operation.EditsMetadata groupId)
      (hrun : exec (GroupM.perform now operation) s = (.ok output, t))
      (hstored : t.manager.groups.get? groupId = some record) :
      AdminHistory T admin groupId
        (⟨record, operation.recipients admin last.record record⟩ :: last :: earlier)
  -- The `retry_` operations announce the stored record again.
  | retried {now : UnixSeconds} {recipients : List (OwnerPubkey K)} {s t : GroupWorld K T}
      {prepared : GroupPreparedSend K T} {last : Announcement K}
      {earlier : List (Announcement K)} (hhistory : AdminHistory T admin groupId (last :: earlier))
      (hrun : exec (GroupM.publishMetadata now last.record recipients) s = (.ok prepared, t)) :
      AdminHistory T admin groupId (⟨last.record, last.recipients ++ recipients⟩ :: earlier)

/-- The records of a history, the newest first. -/
structure GroupRecord.Succession (admin : OwnerPubkey K) (groupId : String)
    (records : List (GroupRecord K)) : Prop where
  groupId : ∀ record ∈ records, record.groupId = groupId
  wellFormed : ∀ record ∈ records, record.WellFormed
  supported : ∀ record ∈ records, validateSupportedProtocol record.protocol = .ok ()
  protocol : ∀ record ∈ records, ∀ other ∈ records, record.protocol = other.protocol
  positive : ∀ record ∈ records, record.revision ≠ 0
  descending : records.Pairwise (fun newer older => older.revision < newer.revision)
  superseded : ∀ record ∈ records, ∀ newer ∈ records, record.revision < newer.revision →
    admin ∈ record.admins
  admitted : ∀ record ∈ records, ∀ owner ∈ record.members, ∃ first ∈ records,
    first.revision ≤ record.revision ∧ owner ∈ first.members ∧ admin ∈ first.admins

namespace GroupRecord.Succession

variable {admin : OwnerPubkey K} {groupId : String} {records : List (GroupRecord K)}

omit [DecidableEq T] [Primitives K T] [InvitePrimitives K T] [GroupPayloadCodec K T] in
theorem eq_of_revision (h : Succession admin groupId records) {first second : GroupRecord K}
    (hfirst : first ∈ records) (hsecond : second ∈ records)
    (hsame : first.revision = second.revision) : first = second := by
  have hpairwise : records.Pairwise (fun a b => a.revision = b.revision → a = b) :=
    h.descending.imp (fun hless heq => absurd heq (by omega))
  have hsymm : Std.Symm (fun a b : GroupRecord K => a.revision = b.revision → a = b) :=
    ⟨fun a b hab heq => (hab heq.symm).symm⟩
  exact hpairwise.forall_of_forall (fun _ _ _ => rfl) hfirst hsecond hsame

omit [DecidableEq T] [Primitives K T] [InvitePrimitives K T] [GroupPayloadCodec K T] in
theorem created {now : UnixSeconds} {name : String} {protocol : GroupProtocol}
    {memberSet : SortedSet (OwnerPubkey K)} (hprotocol : validateSupportedProtocol protocol = .ok ()) :
    Succession admin groupId [GroupM.newGroupRecord now groupId protocol name admin memberSet] := by
  have hmember : admin ∈ memberSet.insert admin := SortedSet.mem_insert.mpr (Or.inl rfl)
  have hadmin : ∀ owner, owner ∈ SortedSet.empty.insert admin ↔ owner = admin := by
    intro owner
    simp only [SortedSet.mem_insert, SortedSet.not_mem_empty, or_false]
  refine ⟨?_, ?_, ?_, ?_, ?_, List.pairwise_singleton _ _, ?_, ?_⟩
  all_goals simp only [List.mem_singleton, forall_eq, exists_eq_left]
  · rfl
  · refine ⟨⟨admin, hmember⟩, ⟨admin, (hadmin admin).mpr rfl⟩, ?_⟩
    intro owner howner
    rw [(hadmin owner).mp howner]
    exact hmember
  · exact hprotocol
  · exact Nat.one_ne_zero
  · intro hless
    exact absurd hless (Nat.lt_irrefl _)
  · intro owner howner
    exact ⟨Nat.le_refl _, howner, (hadmin admin).mpr rfl⟩

omit [DecidableEq T] [Primitives K T] [InvitePrimitives K T] [GroupPayloadCodec K T] in
theorem edited {last next : GroupRecord K} (h : Succession admin groupId (last :: records))
    (hedited : GroupRecord.Edited admin last next) (hnarrows : GroupRecord.Narrows last next)
    (hbelow : last.revision < u64Max) : Succession admin groupId (next :: last :: records) := by
  have hlast : last ∈ last :: records := List.mem_cons_self
  have hrevision : next.revision = last.revision + 1 :=
    hedited.revision.trans ((u64Succ_eq_succ_iff last.revision).mpr hbelow)
  have hle : ∀ record ∈ last :: records, record.revision ≤ last.revision := by
    intro record hmem
    rcases List.mem_cons.mp hmem with rfl | hmem
    · exact Nat.le_refl _
    · exact Nat.le_of_lt ((List.pairwise_cons.mp h.descending).1 record hmem)
  refine ⟨?_, ?_, ?_, ?_, ?_, ?_, ?_, ?_⟩
  · exact List.forall_mem_cons.mpr ⟨hedited.groupId.trans (h.groupId last hlast), h.groupId⟩
  · exact List.forall_mem_cons.mpr ⟨hedited.wellFormed (h.wellFormed last hlast), h.wellFormed⟩
  · refine List.forall_mem_cons.mpr ⟨?_, h.supported⟩
    rw [hedited.protocol]
    exact h.supported last hlast
  · have hsame : ∀ record ∈ next :: last :: records, record.protocol = last.protocol :=
      List.forall_mem_cons.mpr ⟨hedited.protocol, fun record hmem =>
        h.protocol record hmem last hlast⟩
    intro record hmem other hother
    rw [hsame record hmem, hsame other hother]
  · exact List.forall_mem_cons.mpr ⟨by omega, h.positive⟩
  · refine List.pairwise_cons.mpr ⟨?_, h.descending⟩
    intro record hmem
    have hrecord := hle record hmem
    omega
  · intro record hmem newer hnewer hless
    rcases List.mem_cons.mp hmem with rfl | hmem
    · rcases List.mem_cons.mp hnewer with rfl | hnewer
      · exact absurd hless (Nat.lt_irrefl _)
      · have holder := hle newer hnewer
        omega
    · rcases Nat.lt_or_eq_of_le (hle record hmem) with hbefore | hsame
      · exact h.superseded record hmem last hlast hbefore
      · rw [h.eq_of_revision hmem hlast hsame]
        exact hedited.admin
  · intro record hmem owner howner
    rcases List.mem_cons.mp hmem with rfl | hmem
    · rcases hnarrows with hmembers | hadmins
      · obtain ⟨first, hfirst, hearlier, hmember⟩ :=
          h.admitted last hlast owner (hmembers owner howner)
        exact ⟨first, List.mem_cons_of_mem _ hfirst, by omega, hmember⟩
      · refine ⟨record, List.mem_cons_self, Nat.le_refl _, howner, ?_⟩
        rw [hadmins]
        exact hedited.admin
    · obtain ⟨first, hfirst, hearlier, hmember⟩ := h.admitted record hmem owner howner
      exact ⟨first, List.mem_cons_of_mem _ hfirst, hearlier, hmember⟩

end GroupRecord.Succession

namespace AdminHistory

variable {admin : OwnerPubkey K} {groupId : String} {history : List (Announcement K)}

theorem succession (h : AdminHistory T admin groupId history) :
    GroupRecord.Succession admin groupId (history.map Announcement.record) := by
  induction h with
  | created hadmin hdrawn hrun hstored =>
      obtain ⟨hprotocol, memberSet, record, -, -, -, hrecord, -, hget⟩ :=
        GroupM.createGroupWithProtocol_publishes hrun
      rw [hdrawn] at hget hrecord
      rw [hstored] at hget
      cases hget
      rw [List.map_singleton, hrecord, hadmin]
      exact GroupRecord.Succession.created hprotocol
  | edited hhistory hadmin hheld hbelow hedits hrun hstored ih =>
      obtain ⟨current, next, hpublishes⟩ := GroupM.perform_publishes hedits hrun
      have hcurrent := hpublishes.held
      rw [hheld] at hcurrent
      cases hcurrent
      have hnext := hpublishes.stored
      rw [ih.groupId _ List.mem_cons_self, hstored] at hnext
      cases hnext
      have hedit := hpublishes.edits
      rw [hadmin] at hedit
      exact ih.edited hedit.edited hedit.narrows hbelow
  | retried hhistory hrun ih => exact ih

/-- Every member of a record other than the admin is sent its snapshot. -/
theorem mem_recipients (h : AdminHistory T admin groupId history) :
    ∀ announcement ∈ history, ∀ owner ∈ announcement.record.members, owner ≠ admin →
      owner ∈ announcement.recipients := by
  induction h with
  | created hadmin hdrawn hrun hstored =>
      simp only [List.mem_singleton, forall_eq]
      intro owner howner hother
      exact GroupRecord.mem_remoteMembers.mpr ⟨howner, hother⟩
  | edited hhistory hadmin hheld hbelow hedits hrun hstored ih =>
      refine List.forall_mem_cons.mpr ⟨?_, ih⟩
      obtain ⟨current, next, hpublishes⟩ := GroupM.perform_publishes hedits hrun
      have hcurrent := hpublishes.held
      rw [hheld] at hcurrent
      cases hcurrent
      have hnext := hpublishes.stored
      rw [hhistory.succession.groupId _ List.mem_cons_self, hstored] at hnext
      cases hnext
      have hedit := hpublishes.edits
      rw [hadmin] at hedit
      intro owner howner hother
      exact hedit.mem_recipients howner hother
  | retried hhistory hrun ih =>
      obtain ⟨hlast, hearlier⟩ := List.forall_mem_cons.mp ih
      refine List.forall_mem_cons.mpr ⟨?_, hearlier⟩
      intro owner howner hother
      exact List.mem_append_left _ (hlast owner howner hother)

end AdminHistory

/-- A snapshot of a record as it reaches a recipient. -/
structure SnapshotDelivery (K T : Type) [LinearOrder K] [GroupPayloadCodec K T] where
  record : GroupRecord K
  senderDevice : DevicePubkey K
  payload : T
  carries : GroupPayloadCodec.decodePairwiseCommand (K := K) payload =
    .ok (some record.metadataPayload)

namespace GroupManager

/-- The recipient handles the snapshots one after another. A call that fails changes nothing. -/
def handleSnapshots (manager : GroupManager K) (sender : OwnerPubkey K)
    (deliveries : List (SnapshotDelivery K T)) : GroupManager K :=
  deliveries.foldl (fun manager delivery => manager.after
    (manager.handlePairwisePayload sender delivery.senderDevice delivery.payload)) manager

variable {admin : OwnerPubkey K} {groupId : String} {records : List (GroupRecord K)}

omit [DecidableEq T] [InvitePrimitives K T] in
/-- What the recipient knows of the group follows the admission of its records. -/
theorem handlePairwisePayload_admits (h : GroupRecord.Succession admin groupId records)
    {manager : GroupManager K} {delivery : SnapshotDelivery K T}
    (hrecord : delivery.record ∈ records)
    (hknown : ∀ existing, manager.groups.get? groupId = some existing → existing ∈ records) :
    (manager.after (manager.handlePairwisePayload admin delivery.senderDevice
        delivery.payload)).localOwnerPubkey = manager.localOwnerPubkey ∧
      (manager.after (manager.handlePairwisePayload admin delivery.senderDevice
        delivery.payload)).groups.get? groupId =
      Selection.adopt (GroupRecord.Admits admin manager.localOwnerPubkey) GroupRecord.revision
        (manager.groups.get? groupId) delivery.record := by
  obtain ⟨record, senderDevice, payload, hcarries⟩ := delivery
  dsimp only at hrecord ⊢
  have hread : GroupRecord.fromMetadataSnapshot record.snapshot = .ok record :=
    GroupRecord.fromMetadataSnapshot_snapshot (h.wellFormed record hrecord)
      (h.supported record hrecord) (h.positive record hrecord)
  have hgroup := h.groupId record hrecord
  have hcall : manager.handlePairwisePayload (T := T) admin senderDevice payload =
      manager.handleMetadataSnapshot admin record.snapshot := by
    unfold handlePairwisePayload handlePairwisePayloadInner
    rw [hcarries]
    rfl
  rw [hcall]
  unfold handleMetadataSnapshot
  rw [hread]
  dsimp only [bind, Except.bind]
  rw [hgroup]
  have hstore : (manager.setGroup groupId record).groups.get? groupId = some record :=
    SortedMap.get?_insert_self _ _ _
  cases hget : manager.groups.get? groupId with
  | none =>
      dsimp only [Selection.adopt]
      by_cases hmember : manager.localOwnerPubkey ∈ record.members
      · rw [if_neg (not_not.mpr hmember)]
        by_cases hsender : admin = manager.localOwnerPubkey ∨ admin ∈ record.admins
        · have hadmits : GroupRecord.Admits admin manager.localOwnerPubkey record = true := by
            simpa [GroupRecord.Admits, hmember] using hsender
          rw [if_neg (by simpa [or_iff_not_imp_left] using hsender), if_pos hadmits]
          exact ⟨rfl, hstore⟩
        · have hadmits : ¬GroupRecord.Admits admin manager.localOwnerPubkey record = true := by
            simpa [GroupRecord.Admits, hmember] using hsender
          rw [if_pos (by simpa [not_or] using hsender), if_neg hadmits]
          exact ⟨rfl, hget⟩
      · have hadmits : ¬GroupRecord.Admits admin manager.localOwnerPubkey record = true := by
          simp [GroupRecord.Admits, hmember]
        rw [if_pos hmember, if_neg hadmits]
        exact ⟨rfl, hget⟩
  | some existing =>
      have hexisting := hknown existing hget
      dsimp only [Selection.adopt]
      rw [Selection.greater_some, if_neg (not_not.mpr (h.protocol existing hexisting record hrecord))]
      by_cases hless : existing.revision < record.revision
      · have hold : ¬(record.revision < existing.revision ∨ existing = record) := by
          rintro (hnewer | rfl)
          · omega
          · omega
        have hsender := h.superseded existing hexisting record hrecord hless
        rw [if_neg hold, if_neg (by omega), if_neg (by simp [hsender]), if_pos hless]
        exact ⟨rfl, hstore⟩
      · have hold : record.revision < existing.revision ∨ existing = record := by
          rcases Nat.lt_or_eq_of_le (Nat.le_of_not_lt hless) with hnewer | hsame
          · exact Or.inl hnewer
          · exact Or.inr (h.eq_of_revision hexisting hrecord hsame.symm)
        rw [if_pos hold, if_neg hless]
        exact ⟨rfl, hget⟩

omit [DecidableEq T] [InvitePrimitives K T] in
theorem handleSnapshots_admits (h : GroupRecord.Succession admin groupId records)
    {deliveries : List (SnapshotDelivery K T)} (hrecords : ∀ delivery ∈ deliveries,
      delivery.record ∈ records) {manager : GroupManager K}
    (hknown : ∀ existing, manager.groups.get? groupId = some existing → existing ∈ records) :
    (manager.handleSnapshots admin deliveries).groups.get? groupId =
      (deliveries.map SnapshotDelivery.record).foldl
        (Selection.adopt (GroupRecord.Admits admin manager.localOwnerPubkey)
          GroupRecord.revision) (manager.groups.get? groupId) := by
  induction deliveries generalizing manager with
  | nil => rfl
  | cons delivery rest ih =>
      have hrecord := hrecords delivery List.mem_cons_self
      obtain ⟨hlocal, hget⟩ := handlePairwisePayload_admits h hrecord hknown
      have hnext : ∀ existing, (manager.after (manager.handlePairwisePayload admin
          delivery.senderDevice delivery.payload)).groups.get? groupId = some existing →
          existing ∈ records := by
        intro existing hexisting
        rw [hget] at hexisting
        obtain rfl | hold := Selection.adopt_eq hexisting
        · exact hrecord
        · exact hknown existing hold
      have hrest := ih (fun d hd => hrecords d (List.mem_cons_of_mem delivery hd)) hnext
      rw [hlocal, hget] at hrest
      exact hrest

end GroupManager

/-- The records whose snapshots are sent to `recipient`, the newest first. The admin's own other
devices get every snapshot. -/
def addressedTo (admin recipient : OwnerPubkey K) (history : List (Announcement K)) :
    List (GroupRecord K) :=
  (history.filter (fun announcement =>
    recipient = admin || announcement.recipients.contains recipient)).map Announcement.record

theorem AdminHistory.admitted {admin recipient : OwnerPubkey K} {groupId : String}
    {history : List (Announcement K)} (h : AdminHistory T admin groupId history)
    (hmember : ∃ announcement ∈ history, recipient ∈ announcement.record.members) :
    ∃ first ∈ addressedTo admin recipient history,
      GroupRecord.Admits admin recipient first = true := by
  obtain ⟨announcement, hannouncement, howner⟩ := hmember
  obtain ⟨first, hfirst, -, hlisted, hadmin⟩ := h.succession.admitted _
    (List.mem_map.mpr ⟨announcement, hannouncement, rfl⟩) recipient howner
  obtain ⟨announced, hannounced, rfl⟩ := List.mem_map.mp hfirst
  refine ⟨announced.record, List.mem_map.mpr ⟨announced, List.mem_filter.mpr ⟨hannounced, ?_⟩,
    rfl⟩, ?_⟩
  · by_cases hself : recipient = admin
    · simp [hself]
    · have hsent := h.mem_recipients announced hannounced recipient hlisted hself
      simp [hsent]
  · simp [GroupRecord.Admits, hlisted, hadmin]

/-- Delivered in any order and any number of times, the snapshots of a history that one admin
makes leave the recipient with the record they leave it with in order, if and only if the newest
of them is delivered at least once when it is admitted itself or another has been before. -/
theorem group_metadata_converges_iff {admin recipient : OwnerPubkey K} {groupId : String}
    {history : List (Announcement K)} (hhistory : AdminHistory T admin groupId history)
    (hmember : ∃ announcement ∈ history, recipient ∈ announcement.record.members)
    (peer : GroupManager K) (hlocal : peer.localOwnerPubkey = recipient)
    (hunknown : peer.groups.get? groupId = none)
    (inOrder deliveries : List (SnapshotDelivery K T))
    (hinOrder : inOrder.map SnapshotDelivery.record =
      (addressedTo admin recipient history).reverse)
    (hdeliveries : ∀ record, record ∈ deliveries.map SnapshotDelivery.record ↔
      record ∈ addressedTo admin recipient history) :
    (peer.handleSnapshots admin deliveries).groups.get? groupId =
        (peer.handleSnapshots admin inOrder).groups.get? groupId ↔
      ∃ before newest after, deliveries = before ++ newest :: after ∧
        (∀ record ∈ addressedTo admin recipient history,
          record.revision ≤ newest.record.revision) ∧
        (GroupRecord.Admits admin recipient newest.record = true ∨
          ∃ earlier ∈ before, GroupRecord.Admits admin recipient earlier.record = true) := by
  have hsuccession := hhistory.succession
  have hsublist : (addressedTo admin recipient history).Sublist
      (history.map Announcement.record) := List.filter_sublist.map _
  have hknown : ∀ existing, peer.groups.get? groupId = some existing →
      existing ∈ history.map Announcement.record := by
    intro existing hexisting
    rw [hunknown] at hexisting
    cases hexisting
  obtain ⟨first, hfirst, hadmits⟩ := hhistory.admitted hmember
  cases haddressed : addressedTo admin recipient history with
  | nil =>
      rw [haddressed] at hfirst
      cases hfirst
  | cons top rest =>
      rw [haddressed] at hsublist hfirst hinOrder hdeliveries
      have hdescending := (List.pairwise_cons.mp (hsuccession.descending.sublist hsublist)).1
      have htop : ∀ record ∈ top :: rest, record.revision ≤ top.revision ∧
          (record.revision = top.revision → record = top) := by
        intro record hmem
        refine ⟨?_, hsuccession.eq_of_revision (hsublist.mem hmem)
          (hsublist.mem List.mem_cons_self)⟩
        rcases List.mem_cons.mp hmem with rfl | hmem
        · exact Nat.le_refl _
        · exact Nat.le_of_lt (hdescending record hmem)
      have hmemOrder : ∀ delivery ∈ inOrder, delivery.record ∈ history.map Announcement.record := by
        intro delivery hdelivery
        have hrecord := List.mem_map_of_mem (f := SnapshotDelivery.record) hdelivery
        rw [hinOrder] at hrecord
        exact hsublist.mem (List.mem_reverse.mp hrecord)
      have hmemDeliveries : ∀ delivery ∈ deliveries,
          delivery.record ∈ history.map Announcement.record := fun delivery hdelivery =>
        hsublist.mem ((hdeliveries _).mp (List.mem_map_of_mem hdelivery))
      -- In order the newest snapshot comes last, after one that is admitted or as that one.
      have hlast : (peer.handleSnapshots admin inOrder).groups.get? groupId = some top := by
        rw [GroupManager.handleSnapshots_admits hsuccession hmemOrder hknown, hunknown, hinOrder,
          hlocal, Selection.foldl_adopt_eq_some_iff
            (fun record hrecord => htop record (List.mem_reverse.mp hrecord))]
        refine ⟨rest.reverse, [], List.reverse_cons, ?_⟩
        rcases List.mem_cons.mp hfirst with rfl | hearlier
        · exact Or.inl hadmits
        · exact Or.inr ⟨first, List.mem_reverse.mpr hearlier, hadmits⟩
      rw [hlast, GroupManager.handleSnapshots_admits hsuccession hmemDeliveries hknown, hunknown,
        hlocal, Selection.foldl_adopt_eq_some_iff
          (fun record hrecord => htop record ((hdeliveries record).mp hrecord))]
      constructor
      · rintro ⟨before, after, hsplit, htaken⟩
        obtain ⟨front, back, rfl, rfl, hback⟩ := List.map_eq_append_iff.mp hsplit
        obtain ⟨newest, later, rfl, rfl, rfl⟩ := List.map_eq_cons_iff.mp hback
        refine ⟨front, newest, later, rfl, fun record hmem => (htop record hmem).1, ?_⟩
        rcases htaken with htaken | ⟨record, hmem, htaken⟩
        · exact Or.inl htaken
        · obtain ⟨earlier, hearlier, rfl⟩ := List.mem_map.mp hmem
          exact Or.inr ⟨earlier, hearlier, htaken⟩
      · rintro ⟨before, newest, after, rfl, hnewest, htaken⟩
        have hmem : newest.record ∈ top :: rest := by
          apply (hdeliveries _).mp
          exact List.mem_map_of_mem (List.mem_append_right before List.mem_cons_self)
        have hsame : newest.record = top := (htop _ hmem).2
          (Nat.le_antisymm (htop _ hmem).1 (hnewest top List.mem_cons_self))
        refine ⟨before.map SnapshotDelivery.record, after.map SnapshotDelivery.record, ?_, ?_⟩
        · rw [List.map_append, List.map_cons, hsame]
        · rw [← hsame]
          rcases htaken with htaken | ⟨earlier, hearlier, htaken⟩
          · exact Or.inl htaken
          · exact Or.inr ⟨earlier.record, List.mem_map_of_mem hearlier, htaken⟩

/-! A member that is removed again. -/

namespace GroupWire

/-- Owner 1 makes a group with owner 2. -/
def createdRecord : GroupRecord KeyTerm :=
  GroupM.newGroupRecord 7 "group" GroupProtocol.pairwiseFanoutV1 "team" (exampleOwner 1)
    (SortedSet.ofList [exampleOwner 2])

/-- The group without owner 2. -/
def removedRecord : GroupRecord KeyTerm :=
  { createdRecord with
    members := SortedSet.ofList [exampleOwner 1], revision := 2, updatedAt := 9 }

def removal : List (Announcement KeyTerm) :=
  [⟨removedRecord, createdRecord.remoteMembers (exampleOwner 1)⟩,
    ⟨createdRecord, createdRecord.remoteMembers (exampleOwner 1)⟩]

def adminWorld : GroupWorld KeyTerm TextTerm :=
  ⟨GroupTrail.new (exampleOwner 1), exampleSessions 1, exampleRng 10 "group"⟩

theorem removal_history : AdminHistory TextTerm (exampleOwner 1) "group" removal := by
  let create : GroupM KeyTerm TextTerm (GroupCreateResult KeyTerm TextTerm) :=
    GroupM.createGroupWithProtocol 7 "team" [exampleOwner 2] GroupProtocol.pairwiseFanoutV1
  let remove : GroupM KeyTerm TextTerm (GroupOutput KeyTerm TextTerm) :=
    GroupM.perform 9 (.removeMembers "group" [exampleOwner 2])
  have hruns : (exec create adminWorld).1.isOk = true ∧
      (exec create adminWorld).2.manager.localOwnerPubkey = exampleOwner 1 ∧
      (exec create adminWorld).2.manager.groups.get? "group" = some createdRecord ∧
      (exec remove (exec create adminWorld).2).1.isOk = true ∧
      (exec remove (exec create adminWorld).2).2.manager.groups.get? "group" =
        some removedRecord := by
    decide +kernel
  generalize hcreate : exec create adminWorld = created at hruns
  obtain ⟨result, world⟩ := created
  dsimp only at hruns
  generalize hremove : exec remove world = removed at hruns
  obtain ⟨output, last⟩ := removed
  obtain ⟨hresult, hlocal, hheld, houtput, hstored⟩ := hruns
  obtain ⟨result, rfl⟩ := exists_of_isOk hresult
  obtain ⟨output, rfl⟩ := exists_of_isOk houtput
  have hhistory : AdminHistory TextTerm (exampleOwner 1) "group"
      [⟨createdRecord, createdRecord.remoteMembers (exampleOwner 1)⟩] :=
    AdminHistory.created rfl rfl hcreate hheld
  have hedits : (.removeMembers "group" [exampleOwner 2] :
      GroupOperation KeyTerm TextTerm).EditsMetadata "group" := .removeMembers [exampleOwner 2]
  exact AdminHistory.edited hhistory hlocal hheld (by decide) hedits hremove hstored

theorem createdRecord_carried :
    decodePairwiseCommand (examplePayload 1 createdRecord.metadataPayload) =
      .ok (some createdRecord.metadataPayload) := by
  decide +kernel

theorem removedRecord_carried :
    decodePairwiseCommand (examplePayload 1 removedRecord.metadataPayload) =
      .ok (some removedRecord.metadataPayload) := by
  decide +kernel

def createdDelivery : SnapshotDelivery KeyTerm TextTerm :=
  ⟨createdRecord, exampleDevice 1, _, createdRecord_carried⟩

def removedDelivery : SnapshotDelivery KeyTerm TextTerm :=
  ⟨removedRecord, exampleDevice 1, _, removedRecord_carried⟩

/-- The removal reaches owner 2 between two copies of the first snapshot. -/
theorem removal_converges :
    ((GroupManager.new (exampleOwner 2)).handleSnapshots (exampleOwner 1)
        [createdDelivery, removedDelivery, createdDelivery]).groups.get? "group" =
      ((GroupManager.new (exampleOwner 2)).handleSnapshots (exampleOwner 1)
        [createdDelivery, removedDelivery]).groups.get? "group" := by
  have hmember : ∃ announcement ∈ removal, exampleOwner 2 ∈ announcement.record.members :=
    ⟨_, List.mem_cons_of_mem _ List.mem_cons_self, by decide⟩
  have haddressed : addressedTo (exampleOwner 1) (exampleOwner 2) removal =
      [removedRecord, createdRecord] := by
    decide +kernel
  apply (group_metadata_converges_iff removal_history hmember (GroupManager.new (exampleOwner 2))
    rfl rfl [createdDelivery, removedDelivery] [createdDelivery, removedDelivery, createdDelivery]
    (by rw [haddressed]; rfl) ?_).mpr
  · refine ⟨[createdDelivery], removedDelivery, [createdDelivery], rfl, ?_, Or.inr ?_⟩
    · rw [haddressed]
      decide
    · exact ⟨createdDelivery, List.mem_singleton_self _, by decide⟩
  · intro record
    rw [haddressed]
    simp only [List.map_cons, List.map_nil, List.mem_cons, List.not_mem_nil, or_false]
    constructor
    · rintro (rfl | rfl | rfl)
      · exact Or.inr rfl
      · exact Or.inl rfl
      · exact Or.inr rfl
    · rintro (rfl | rfl)
      · exact Or.inr (Or.inl rfl)
      · exact Or.inl rfl

-- The snapshots the other way around keep owner 2 in a group it was removed from.
example : ((GroupManager.new (exampleOwner 2)).handleSnapshots (exampleOwner 1)
    [removedDelivery, createdDelivery]).groups.get? "group" = some createdRecord := by
  decide +kernel

end GroupWire

end NostrDoubleRatchet
