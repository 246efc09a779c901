import NostrDoubleRatchet.Group.ForwardExclusion

/-!
What a failed send leaves of the sender keys. `send_sender_key_message` starts a chain, records
the recipients of its distribution and records the copy for the local siblings before it
encodes and encrypts the message, so a step that fails after one of these leaves it behind.
-/

namespace NostrDoubleRatchet

variable {K T : Type} [LinearOrder K]

/-- What no operation takes away from a record. -/
structure SenderKeyRecord.Grows (Q : SenderKeyRecord K → Prop) : Prop where
  snapshots : ∀ (record : SenderKeyRecord K) snapshots, Q record →
    Q { record with repairSnapshots := snapshots }
  marked : ∀ (record : SenderKeyRecord K) keyId recipients, Q record →
    Q (record.markDistributed keyId recipients)
  started : ∀ (record : SenderKeyRecord K) keyId chainKey history, Q record →
    Q { record.startChain keyId chainKey with distributionHistory := history }
  advanced : ∀ (record : SenderKeyRecord K) keyId state, Q record →
    Q { record with states := record.states.insert keyId state }

namespace SenderKeyRecord

theorem grows_hasState (keyId : Nat) :
    Grows (fun record : SenderKeyRecord K => (record.states.get? keyId).isSome = true) := by
  have hinsert : ∀ (states : SortedMap Nat (SenderKeyState K)) (keyId' : Nat)
      (state : SenderKeyState K), (states.get? keyId).isSome = true →
        ((states.insert keyId' state).get? keyId).isSome = true := by
    intro states keyId' state h
    rw [SortedMap.get?_insert]
    split
    · rfl
    · exact h
  exact ⟨fun _ _ h => h, fun _ _ _ h => h, fun record _ _ _ h => hinsert record.states _ _ h,
    fun record _ _ h => hinsert record.states _ _ h⟩

theorem grows_distributedTo (keyId : Nat) (holder : OwnerPubkey K) :
    Grows (fun record : SenderKeyRecord K => record.DistributedTo keyId holder) :=
  ⟨fun _ _ h => h, fun _ _ _ h => distributedTo_markDistributed h, fun _ _ _ _ h => h,
    fun _ _ _ h => h⟩

end SenderKeyRecord

namespace GroupManager.RecordAt

variable {id : SenderKeyRecordId K} {Q : SenderKeyRecord K → Prop}

theorem effect (hQ : SenderKeyRecord.Grows Q) {owner : OwnerPubkey K} {device : DevicePubkey K}
    {trail next : GroupTrail K T} (heffect : GroupEffect owner device trail next)
    (h : trail.manager.RecordAt id Q) : next.manager.RecordAt id Q := by
  cases heffect with
  | announced owners command hcommand => exact h
  | shared command => exact h
  | created groupId pubkey secret habsent =>
      obtain ⟨record, hrecord, hrecordQ⟩ := h
      refine ⟨record, (SortedMap.get?_insert_ne _ _ ?_).trans hrecord, hrecordQ⟩
      rintro rfl
      rw [habsent] at hrecord
      cases hrecord
  | started groupId record distribution hrecord =>
      exact h.setSenderKey hrecord (hQ.started record _ _ _)
  | distributed recipients distribution hcurrent =>
      exact (h.recordSenderKeyRepairSnapshot hQ.snapshots _ _ _ _).markSenderKeyDistributionRecipients
        hQ.marked _ _ _ _
  | remembered distribution =>
      exact h.recordSenderKeyRepairSnapshot hQ.snapshots distribution.groupId device distribution
        [trail.manager.localOwnerPubkey]
  | repaired requester id record snapshot howner hrecord hsecret hsnapshot hrecipient => exact h
  | emitted groupId record keyId state advanced hrecord hlatest hstate hnext hiteration =>
      exact h.setSenderKey hrecord (hQ.advanced record keyId advanced)

theorem reaches (hQ : SenderKeyRecord.Grows Q) {s t : GroupWorld K T} (hreach : s.Reaches t)
    (h : s.manager.RecordAt id Q) : t.manager.RecordAt id Q :=
  hreach.preserves (I := fun trail => trail.manager.RecordAt id Q)
    (fun _ _ heffect htrail => htrail.effect hQ heffect) h

end GroupManager.RecordAt

namespace GroupM

open Program

variable [Primitives K T] [InvitePrimitives K T] [GroupPayloadCodec K T]

/-- The owners a send hands the distribution to. -/
def missingRecipients (group : GroupRecord K) (device : DevicePubkey K)
    (distribution : SenderKeyDistribution K) (s : GroupWorld K T) : List (OwnerPubkey K) :=
  s.manager.senderKeyDistributionRecipients group device distribution.keyId
    (group.remoteMembers s.manager.localOwnerPubkey)

/-- A send has synced the siblings and has the distribution of its chain, which it may have
started. -/
structure Ready (now : UnixSeconds) (group : GroupRecord K) (s s₁ s₂ : GroupWorld K T)
    (distribution : SenderKeyDistribution K) (created : Bool) : Prop where
  synced : ∃ prepared, exec (localSiblingSync now group) s = (.ok prepared, s₁)
  ensured : exec (ensureLocalSenderKeyRecord now group s₁.sessions.localDevicePubkey
    (s₁.manager.localSenderKeyHasRemovedRecipients group s₁.sessions.localDevicePubkey)) s₁ =
      (.ok (distribution, created), s₂)

/-- A step of the send fails after one that has written to the sender keys: the fan-out of a
new chain, the copy for the siblings after a new chain or new recipients, the message after
any of these or a new copy for the siblings, or a message that lacks the key to sign it. -/
inductive FailsLate (now : UnixSeconds) (group : GroupRecord K) (body : T)
    (s : GroupWorld K T) : Prop
  | distributing {s₁ s₂ t : GroupWorld K T} {distribution : SenderKeyDistribution K} {e : Error}
      (hready : Ready now group s s₁ s₂ distribution true)
      (hfail : exec (distributeMissing now (missingRecipients group
        s₁.sessions.localDevicePubkey distribution s₂) distribution) s₂ = (.error e, t))
  | sharing {s₁ s₂ s₃ t : GroupWorld K T} {distribution : SenderKeyDistribution K}
      {created : Bool} {remote : GroupPreparedPublish K T} {e : Error}
      (hready : Ready now group s s₁ s₂ distribution created)
      (hdistribute : exec (distributeMissing now (missingRecipients group
        s₁.sessions.localDevicePubkey distribution s₂) distribution) s₂ = (.ok remote, s₃))
      (hwrote : created = true ∨
        missingRecipients group s₁.sessions.localDevicePubkey distribution s₂ ≠ [])
      (hfail : exec (localSiblingSenderKeyDistribution now distribution) s₃ = (.error e, t))
  | emitting {s₁ s₂ s₃ s₄ t : GroupWorld K T} {distribution : SenderKeyDistribution K}
      {created : Bool} {remote sibling : GroupPreparedPublish K T} {e : Error}
      (hready : Ready now group s s₁ s₂ distribution created)
      (hdistribute : exec (distributeMissing now (missingRecipients group
        s₁.sessions.localDevicePubkey distribution s₂) distribution) s₂ = (.ok remote, s₃))
      (hshare : exec (localSiblingSenderKeyDistribution now distribution) s₃ = (.ok sibling, s₄))
      (hwrote : created = true ∨
        missingRecipients group s₁.sessions.localDevicePubkey distribution s₂ ≠ [] ∨
        s₄.manager.senderKeys ≠ s₃.manager.senderKeys ∨
        s₄.manager.RecordAt (s₄.manager.localSenderKeyId group.groupId
          s₁.sessions.localDevicePubkey) fun record =>
            record.senderEventSecretKey = none ∧ ∃ plan, Advanced now group
              (s₄.manager.localSenderKeyId group.groupId s₁.sessions.localDevicePubkey) body s₄
              record plan t.toGroupTrail)
      (hfail : exec (emitSenderKeyMessage now group s₁.sessions.localDevicePubkey body) s₄ =
        (.error e, t))

theorem distributeMissing_error {now : UnixSeconds} {recipients : List (OwnerPubkey K)}
    {distribution : SenderKeyDistribution K} {s t : GroupWorld K T} {e : Error}
    (h : exec (distributeMissing now recipients distribution) s = (.error e, t)) :
    t.manager = s.manager := by
  unfold distributeMissing at h
  split at h
  · cases h
  · obtain ⟨-, ⟨_, heq, -⟩ | ⟨-, htrail⟩⟩ := fanoutSenderKeyDistribution_cases h
    · cases heq
    · exact congrArg GroupTrail.manager htrail

theorem localSiblingSenderKeyDistribution_error {now : UnixSeconds}
    {distribution : SenderKeyDistribution K} {s t : GroupWorld K T} {e : Error}
    (h : exec (localSiblingSenderKeyDistribution now distribution) s = (.error e, t)) :
    t.manager = s.manager := by
  have hsteady := steady_localSiblingPayload now (.senderKeyDistribution distribution) s
  unfold localSiblingSenderKeyDistribution at h
  obtain hsend | ⟨prepared, mid, -, h⟩ := bind_eq_error.mp h
  · rw [hsend] at hsteady
    exact hsteady
  · cases h

omit [InvitePrimitives K T] in
theorem Advanced.get? {now : UnixSeconds} {group : GroupRecord K} {id : SenderKeyRecordId K}
    {body : T} {s : GroupWorld K T} {record : SenderKeyRecord K} {plan : SenderKeyEncryptPlan K T}
    {trail : GroupTrail K T} (h : Advanced now group id body s record plan trail) :
    s.manager.senderKeys.get? id = some record := by
  cases h with
  | mk hrecord hlatest hstate hplaintext hplan => exact hrecord

variable [DecidableEq T]

/-- A send that fails, and not late, leaves the sender keys. -/
theorem sendSenderKeyMessage_error {now : UnixSeconds} {group : GroupRecord K} {body : T}
    {s t : GroupWorld K T} {e : Error} (hearly : ¬ FailsLate now group body s)
    (h : exec (sendSenderKeyMessage now group body) s = (.error e, t)) :
    t.manager.senderKeys = s.manager.senderKeys := by
  unfold sendSenderKeyMessage localDevicePubkey manager at h
  have hsteady := steady_localSiblingPayload now group.metadataPayload s
  obtain hsync | ⟨synced, s₁, hsync, h⟩ := bind_eq_error.mp h
  · rw [show localSiblingPayload now group.metadataPayload = localSiblingSync now group from rfl,
      hsync] at hsteady
    exact congrArg GroupManager.senderKeys hsteady
  rw [show localSiblingPayload now group.metadataPayload = localSiblingSync now group from rfl,
    hsync] at hsteady
  change s₁.manager = s.manager at hsteady
  rw [exec_read_bind, exec_read_bind] at h
  obtain hensure | ⟨⟨distribution, created⟩, s₂, hensure, h⟩ := bind_eq_error.mp h
  · obtain ⟨-, ⟨_, _, heq, -⟩ | ⟨-, htrail⟩⟩ := ensureLocalSenderKeyRecord_cases hensure
    · cases heq
    · rw [congrArg GroupTrail.manager htrail, hsteady]
  have hready : Ready now group s s₁ s₂ distribution created := ⟨⟨synced, hsync⟩, hensure⟩
  have hkept : created = false → s₂.manager = s.manager := by
    intro hcreated
    obtain ⟨-, ⟨_, _, heq, -, hsame, -⟩ | ⟨⟨_, heq⟩, -⟩⟩ := ensureLocalSenderKeyRecord_cases hensure
    · cases heq
      exact (congrArg GroupTrail.manager (hsame hcreated)).trans hsteady
    · cases heq
  rw [exec_read_bind] at h
  obtain hdistribute | ⟨remote, s₃, hdistribute, h⟩ := bind_eq_error.mp h
  · cases created with
    | true => exact absurd (FailsLate.distributing hready hdistribute) hearly
    | false => rw [distributeMissing_error hdistribute, hkept rfl]
  have hquiet : created = false → missingRecipients group s₁.sessions.localDevicePubkey
      distribution s₂ = [] → s₃.manager = s.manager := by
    intro hcreated hnone
    rw [show s₂.manager.senderKeyDistributionRecipients group s₁.sessions.localDevicePubkey
      distribution.keyId (group.remoteMembers s₂.manager.localOwnerPubkey) = [] from hnone]
      at hdistribute
    cases hdistribute
    exact hkept hcreated
  obtain hshare | ⟨sibling, s₄, hshare, h⟩ := bind_eq_error.mp h
  · have hnothing : created = false ∧ missingRecipients group s₁.sessions.localDevicePubkey
        distribution s₂ = [] := by
      by_contra hwrote
      refine hearly (FailsLate.sharing hready hdistribute ?_ hshare)
      rw [not_and_or, Bool.not_eq_false] at hwrote
      exact hwrote
    rw [localSiblingSenderKeyDistribution_error hshare, hquiet hnothing.1 hnothing.2]
  obtain hemit | ⟨message, s₅, -, h⟩ := bind_eq_error.mp h
  · obtain ⟨-, ⟨_, _, _, _, heq, -⟩ | ⟨-, hstate⟩⟩ := emitSenderKeyMessage_cases hemit
    · cases heq
    have hnothing : created = false ∧ missingRecipients group s₁.sessions.localDevicePubkey
        distribution s₂ = [] ∧ s₄.manager.senderKeys = s₃.manager.senderKeys ∧
        t.toGroupTrail = s₄.toGroupTrail := by
      by_contra hwrote
      refine hearly (FailsLate.emitting hready hdistribute hshare ?_ hemit)
      by_cases hcreated : created = true
      · exact Or.inl hcreated
      rw [Bool.not_eq_true] at hcreated
      by_cases hnone : missingRecipients group s₁.sessions.localDevicePubkey distribution s₂ = []
      case neg => exact Or.inr (Or.inl hnone)
      by_cases hcopy : s₄.manager.senderKeys = s₃.manager.senderKeys
      case neg => exact Or.inr (Or.inr (Or.inl hcopy))
      obtain hsame | ⟨record, plan, hsecret, hadvanced⟩ := hstate
      · exact absurd ⟨hcreated, hnone, hcopy, hsame⟩ hwrote
      · have hrecord := hadvanced.get?
        exact Or.inr (Or.inr (Or.inr ⟨record, hrecord, hsecret, plan, hadvanced⟩))
    obtain ⟨hcreated, hnone, hcopy, hsame⟩ := hnothing
    rw [congrArg GroupTrail.manager hsame, hcopy, hquiet hcreated hnone]
  · rw [exec_read_bind] at h
    cases h

/-! A late failure does change the keys. -/

omit [Primitives K T] [InvitePrimitives K T] [GroupPayloadCodec K T] [DecidableEq T] in
private theorem keyIds_callSessions {α : Type}
    (call : SessionManager K T → Rng K → Outcome K T α) :
    Moves (fun s t => t.rng.keyIds = s.rng.keyIds) (callSessions call) := fun _ => rfl

omit [DecidableEq T] in
/-- Sending to the siblings draws no key id. -/
theorem keyIds_localSiblingPayload (now : UnixSeconds) (command : GroupPairwiseCommand K T) :
    Moves (fun s t => t.rng.keyIds = s.rng.keyIds) (localSiblingPayload now command) := by
  have htrans : ∀ s t u : GroupWorld K T, t.rng.keyIds = s.rng.keyIds →
      u.rng.keyIds = t.rng.keyIds → u.rng.keyIds = s.rng.keyIds :=
    fun _ _ _ hst htu => htu.trans hst
  refine Moves.bind htrans (fun _ => rfl) fun sessions => ?_
  split
  · exact fun _ => rfl
  · refine Moves.bind htrans (fun _ => rfl) fun bytes => ?_
    have hbytes : Moves (fun s t => t.rng.keyIds = s.rng.keyIds)
        (localSiblingPayloadBytes (K := K) now bytes) :=
      Moves.bind htrans (keyIds_callSessions _) fun _ _ => rfl
    exact Moves.bind htrans hbytes fun _ => Moves.bind htrans (fun _ => rfl) fun _ _ => rfl

omit [DecidableEq T] in
/-- What a ready send starts from, in the manager before it. -/
theorem Ready.spec {now : UnixSeconds} {group : GroupRecord K} {s s₁ s₂ : GroupWorld K T}
    {distribution : SenderKeyDistribution K} {created : Bool}
    (h : Ready now group s s₁ s₂ distribution created) :
    s.Reaches s₁ ∧ s₁.Reaches s₂ ∧ s₁.manager = s.manager ∧ s₂.sessions = s₁.sessions ∧
      s₁.sessions.localDevicePubkey = s.sessions.localDevicePubkey ∧
      Ensured now (s.manager.localSenderKeyId group.groupId s.sessions.localDevicePubkey)
        (s.manager.localSenderKeyHasRemovedRecipients group s.sessions.localDevicePubkey) s₁
        distribution s₂.toGroupTrail ∧
      (created = false → s₂.manager = s.manager) ∧
      (created = true → distribution.keyId = s.rng.keyIds.head) := by
  obtain ⟨⟨prepared, hsync⟩, hensure⟩ := h
  have hreach := local_localSiblingPayload now group.metadataPayload s
  have hsteady := steady_localSiblingPayload now group.metadataPayload s
  have hkeyIds := keyIds_localSiblingPayload now group.metadataPayload s
  rw [show localSiblingPayload now group.metadataPayload = localSiblingSync now group from rfl,
    hsync] at hreach hsteady hkeyIds
  change s₁.manager = s.manager at hsteady
  have hdevice : s₁.sessions.localDevicePubkey = s.sessions.localDevicePubkey :=
    hreach.sessions.localDevicePubkey
  have hreach₂ := ensureLocalSenderKeyRecord_reaches now group
    (s₁.manager.localSenderKeyHasRemovedRecipients group s₁.sessions.localDevicePubkey) s₁
  rw [hensure] at hreach₂
  obtain ⟨hsessions, ⟨_, _, heq, hensured, hkept, hdrawn⟩ | ⟨⟨_, heq⟩, -⟩⟩ :=
    ensureLocalSenderKeyRecord_cases hensure
  · cases heq
    rw [hdevice, hsteady] at hensured
    refine ⟨hreach, hreach₂, hsteady, hsessions, hdevice, hensured, ?_, ?_⟩
    · exact fun hcreated => (congrArg GroupTrail.manager (hkept hcreated)).trans hsteady
    · exact fun hcreated => (hdrawn hcreated).trans (congrArg Stream'.head hkeyIds)
  · cases heq

omit [InvitePrimitives K T] [GroupPayloadCodec K T] [DecidableEq T] in
theorem Ensured.hasState {now : UnixSeconds} {id : SenderKeyRecordId K} {forceRotate : Bool}
    {s : GroupWorld K T} {distribution : SenderKeyDistribution K} {trail : GroupTrail K T}
    (h : Ensured now id forceRotate s distribution trail) :
    trail.manager.RecordAt id
      (fun record => (record.states.get? distribution.keyId).isSome = true) := by
  cases h with
  | kept hforce hrecord hlatest hstate =>
      exact ⟨_, hrecord, Option.isSome_of_eq_some hstate⟩
  | rotated hopened =>
      exact ⟨_, SortedMap.get?_insert_self _ _ _,
        Option.isSome_of_eq_some (SortedMap.get?_insert_self _ _ _)⟩

omit [DecidableEq T] in
theorem distributeMissing_reaches {now : UnixSeconds} {recipients : List (OwnerPubkey K)}
    {distribution : SenderKeyDistribution K} {s t : GroupWorld K T}
    {result : Except Error (GroupPreparedPublish K T)}
    (hcurrent : s.toGroupTrail.Current s.sessions.localDevicePubkey distribution)
    (h : exec (distributeMissing now recipients distribution) s = (result, t)) : s.Reaches t := by
  unfold distributeMissing at h
  split at h
  · cases h
    exact GroupWorld.Reaches.refl s
  · have hreach : s.Reaches
        (exec (fanoutSenderKeyDistribution now recipients distribution) s).2 :=
      fanoutSenderKeyDistribution_reaches hcurrent
    rw [h] at hreach
    exact hreach

omit [DecidableEq T] in
/-- A chain that was started under a fresh key id stays. -/
theorem Ready.changed_of_created {now : UnixSeconds} {group : GroupRecord K}
    {s s₁ s₂ t : GroupWorld K T} {distribution : SenderKeyDistribution K}
    (hready : Ready now group s s₁ s₂ distribution true) (hreach : s₂.Reaches t)
    (hfresh : ∀ record, s.manager.senderKeys.get?
      (s.manager.localSenderKeyId group.groupId s.sessions.localDevicePubkey) = some record →
        record.states.get? s.rng.keyIds.head = none) :
    t.manager.senderKeys ≠ s.manager.senderKeys := by
  obtain ⟨-, -, -, -, -, hensured, -, hdrawn⟩ := hready.spec
  obtain ⟨record, hrecord, hstate⟩ :=
    hensured.hasState.reaches (SenderKeyRecord.grows_hasState _) hreach
  intro heq
  rw [heq] at hrecord
  rw [hdrawn rfl, hfresh record hrecord] at hstate
  cases hstate

omit [Primitives K T] [InvitePrimitives K T] [GroupPayloadCodec K T] [DecidableEq T] in
private theorem recordAt_marked {manager : GroupManager K} {groupId : String}
    {device : DevicePubkey K} {keyId : Nat} {recipients : List (OwnerPubkey K)}
    {holder : OwnerPubkey K} (hmem : holder ∈ recipients)
    (h : (manager.senderKeys.get? (manager.localSenderKeyId groupId device)).isSome) :
    (manager.markSenderKeyDistributionRecipients groupId device keyId recipients).RecordAt
      (manager.localSenderKeyId groupId device)
      (fun record => record.DistributedTo keyId holder) := by
  obtain ⟨record, hrecord⟩ := Option.isSome_iff_exists.mp h
  unfold GroupManager.markSenderKeyDistributionRecipients GroupManager.modifySenderKey
  rw [hrecord, if_neg (by cases recipients with
    | nil => cases hmem
    | cons first rest => exact Bool.false_ne_true)]
  exact ⟨_, SortedMap.get?_insert_self _ _ _, SenderKeyRecord.distributedTo_marked hmem⟩

omit [DecidableEq T] in
/-- A recipient that was recorded for the stored chain stays. -/
theorem Ready.changed_of_recipient {now : UnixSeconds} {group : GroupRecord K}
    {s s₁ s₂ s₃ t : GroupWorld K T} {distribution : SenderKeyDistribution K}
    {remote : GroupPreparedPublish K T}
    (hready : Ready now group s s₁ s₂ distribution false)
    (hmissing : missingRecipients group s₁.sessions.localDevicePubkey distribution s₂ ≠ [])
    (hdistribute : exec (distributeMissing now (missingRecipients group
      s₁.sessions.localDevicePubkey distribution s₂) distribution) s₂ = (.ok remote, s₃))
    (hreach : s₃.Reaches t) : t.manager.senderKeys ≠ s.manager.senderKeys := by
  obtain ⟨-, hreach₂, hmanager₁, hsessions₂, hdevice, hensured, hkept, -⟩ := hready.spec
  obtain ⟨holder, hholder⟩ := List.exists_mem_of_ne_nil _ hmissing
  have hid : s₂.manager.localSenderKeyId distribution.groupId s₂.sessions.localDevicePubkey =
      s.manager.localSenderKeyId group.groupId s.sessions.localDevicePubkey := by
    rw [hkept rfl, hsessions₂, hdevice, hensured.groupId]
    rfl
  obtain ⟨record, -, hrecord, -⟩ := hensured.states
  have hnot : ¬ record.DistributedTo distribution.keyId holder := by
    rintro ⟨owners, howners, hmem⟩
    unfold missingRecipients GroupManager.senderKeyDistributionRecipients at hholder
    rw [hdevice, hkept rfl] at hholder
    change s₂.manager.senderKeys.get? _ = _ at hrecord
    rw [hkept rfl] at hrecord
    rw [hrecord] at hholder
    dsimp only at hholder
    rw [howners] at hholder
    have hfilter := (List.mem_filter.mp hholder).2
    simp only [Bool.and_eq_true, Option.all_some, Bool.not_eq_true'] at hfilter
    rw [SortedSet.contains_iff.mpr hmem] at hfilter
    cases hfilter.2
  have hmarked : s₃.manager.RecordAt
      (s.manager.localSenderKeyId group.groupId s.sessions.localDevicePubkey)
      (fun record => record.DistributedTo distribution.keyId holder) := by
    unfold distributeMissing at hdistribute
    rw [if_neg (by simpa using hmissing)] at hdistribute
    obtain ⟨-, ⟨_, -, htrail⟩ | ⟨⟨_, heq⟩, -⟩⟩ := fanoutSenderKeyDistribution_cases hdistribute
    · have hmanager := congrArg GroupTrail.manager htrail
      change s₃.manager = _ at hmanager
      rw [hmanager]
      have hframe := s₂.manager.frame_recordSenderKeyRepairSnapshot distribution.groupId
        s₂.sessions.localDevicePubkey distribution
        (missingRecipients group s₁.sessions.localDevicePubkey distribution s₂)
      have hid' : (s₂.manager.recordSenderKeyRepairSnapshot distribution.groupId
          s₂.sessions.localDevicePubkey distribution
          (missingRecipients group s₁.sessions.localDevicePubkey distribution
            s₂)).localSenderKeyId distribution.groupId s₂.sessions.localDevicePubkey =
          s.manager.localSenderKeyId group.groupId s.sessions.localDevicePubkey := by
        rw [← hid, GroupManager.localSenderKeyId, GroupManager.localSenderKeyId,
          hframe.localOwnerPubkey]
      have hpresent := hframe.isSome _ (Option.isSome_of_eq_some hrecord)
      rw [← hid'] at hpresent ⊢
      exact recordAt_marked hholder hpresent
    · cases heq
  obtain ⟨found, hfound, hdistributed⟩ :=
    hmarked.reaches (SenderKeyRecord.grows_distributedTo _ _) hreach
  intro heq
  change s₂.manager.senderKeys.get? _ = _ at hrecord
  rw [hkept rfl] at hrecord
  rw [heq, hrecord] at hfound
  cases hfound
  exact hnot hdistributed

omit [DecidableEq T] in
/-- Without a new chain or recipients the keys are untouched until the siblings get a copy. -/
theorem Ready.quiet {now : UnixSeconds} {group : GroupRecord K} {s s₁ s₂ s₃ : GroupWorld K T}
    {distribution : SenderKeyDistribution K} {remote : GroupPreparedPublish K T}
    (hready : Ready now group s s₁ s₂ distribution false)
    (hmissing : missingRecipients group s₁.sessions.localDevicePubkey distribution s₂ = [])
    (hdistribute : exec (distributeMissing now (missingRecipients group
      s₁.sessions.localDevicePubkey distribution s₂) distribution) s₂ = (.ok remote, s₃)) :
    s₃.manager = s.manager := by
  obtain ⟨-, -, -, -, -, -, hkept, -⟩ := hready.spec
  rw [hmissing] at hdistribute
  cases hdistribute
  exact hkept rfl

omit [DecidableEq T] in
/-- A copy for the siblings changes no chain. -/
theorem recordAt_shared {now : UnixSeconds} {distribution : SenderKeyDistribution K}
    {s t : GroupWorld K T} {sibling : GroupPreparedPublish K T}
    (h : exec (localSiblingSenderKeyDistribution now distribution) s = (.ok sibling, t))
    {id : SenderKeyRecordId K} {Q : SenderKeyRecord K → Prop}
    (hQ : ∀ (record : SenderKeyRecord K) snapshots, Q record →
      Q { record with repairSnapshots := snapshots }) (hrecord : s.manager.RecordAt id Q) :
    t.manager.RecordAt id Q := by
  have hsteady := steady_localSiblingPayload now (.senderKeyDistribution distribution) s
  unfold localSiblingSenderKeyDistribution at h
  obtain ⟨prepared, mid, hsend, h⟩ := bind_eq_ok.mp h
  rw [hsend] at hsteady
  change mid.manager = s.manager at hsteady
  rw [← hsteady] at hrecord
  cases h
  change GroupManager.RecordAt (if _ then _ else mid.manager) id Q
  split
  · exact hrecord.recordSenderKeyRepairSnapshot hQ _ _ _ _
  · exact hrecord

omit [InvitePrimitives K T] [DecidableEq T] in
/-- A message that was encrypted moves its chain on. -/
theorem Advanced.iteration {now : UnixSeconds} {group : GroupRecord K} {id : SenderKeyRecordId K}
    {body : T} {s : GroupWorld K T} {record : SenderKeyRecord K} {plan : SenderKeyEncryptPlan K T}
    {trail : GroupTrail K T} (h : Advanced now group id body s record plan trail) :
    ∃ keyId state next, record.states.get? keyId = some state ∧
      next.iteration = state.iteration + 1 ∧
      trail.manager.RecordAt id (fun record => record.states.get? keyId = some next) := by
  cases h with
  | mk hrecord hlatest hstate hplaintext hplan =>
      refine ⟨_, _, _, hstate, ?_, _, SortedMap.get?_insert_self _ _ _,
        SortedMap.get?_insert_self _ _ _⟩
      rw [(SenderKeyState.planEncrypt_eq_ok hplan).2.2.2.2]

omit [DecidableEq T] in
theorem Advanced.changed {now : UnixSeconds} {group : GroupRecord K} {id : SenderKeyRecordId K}
    {body : T} {s s₃ s₄ t : GroupWorld K T} {record : SenderKeyRecord K}
    {plan : SenderKeyEncryptPlan K T} {distribution : SenderKeyDistribution K}
    {sibling : GroupPreparedPublish K T}
    (h : Advanced now group id body s₄ record plan t.toGroupTrail)
    (hquiet : s₃.manager = s.manager)
    (hshare : exec (localSiblingSenderKeyDistribution now distribution) s₃ = (.ok sibling, s₄)) :
    t.manager.senderKeys ≠ s.manager.senderKeys := by
  obtain ⟨keyId, state, next, hstate, hiteration, found, hfound, hnext⟩ := h.iteration
  intro heq
  change t.manager.senderKeys.get? id = some found at hfound
  rw [heq, ← hquiet] at hfound
  obtain ⟨record', hrecord', hnext'⟩ := recordAt_shared hshare
    (Q := fun record => record.states.get? keyId = some next) (fun _ _ hQ => hQ)
    ⟨found, hfound, hnext⟩
  rw [h.get?] at hrecord'
  cases hrecord'
  rw [hstate] at hnext'
  rw [Option.some.inj hnext'] at hiteration
  omega

/-- A late failure leaves changed keys, when the key id of a new chain is fresh. -/
theorem FailsLate.changed {now : UnixSeconds} {group : GroupRecord K} {body : T}
    {s : GroupWorld K T} (h : FailsLate now group body s)
    (hfresh : ∀ record, s.manager.senderKeys.get?
      (s.manager.localSenderKeyId group.groupId s.sessions.localDevicePubkey) = some record →
        record.states.get? s.rng.keyIds.head = none) :
    ∃ e t, exec (sendSenderKeyMessage now group body) s = (.error e, t) ∧
      t.manager.senderKeys ≠ s.manager.senderKeys := by
  have hcurrent₂ : ∀ {s₁ s₂ : GroupWorld K T} {distribution : SenderKeyDistribution K}
      {created : Bool}, Ready now group s s₁ s₂ distribution created →
      s₂.toGroupTrail.Current s₂.sessions.localDevicePubkey distribution := by
    intro s₁ s₂ distribution created hready
    obtain ⟨-, hreach₂, hmanager, -, hdevice, hensured, -⟩ := hready.spec
    rw [← hmanager, ← hdevice] at hensured
    exact hensured.current hreach₂
  cases h with
  | @distributing s₁ s₂ t distribution e hready hfail =>
      obtain ⟨prepared, hsync⟩ := hready.synced
      refine ⟨e, t, ?_, hready.changed_of_created
        (distributeMissing_reaches (hcurrent₂ hready) hfail) hfresh⟩
      unfold sendSenderKeyMessage localDevicePubkey manager
      rw [exec_bind_ok hsync, exec_read_bind, exec_read_bind, exec_bind_ok hready.ensured]
      exact exec_bind_error hfail _
  | @sharing s₁ s₂ s₃ t distribution created remote e hready hdistribute hwrote hfail =>
      obtain ⟨prepared, hsync⟩ := hready.synced
      have hreach₃ := distributeMissing_reaches (hcurrent₂ hready) hdistribute
      have hreach := local_localSiblingSenderKeyDistribution now distribution s₃
      rw [hfail] at hreach
      refine ⟨e, t, ?_, ?_⟩
      · unfold sendSenderKeyMessage localDevicePubkey manager
        rw [exec_bind_ok hsync, exec_read_bind, exec_read_bind, exec_bind_ok hready.ensured]
        exact (exec_bind_ok hdistribute _).trans (exec_bind_error hfail _)
      · cases created with
        | true => exact hready.changed_of_created (hreach₃.trans hreach) hfresh
        | false =>
            exact hready.changed_of_recipient (hwrote.resolve_left Bool.false_ne_true)
              hdistribute hreach
  | @emitting s₁ s₂ s₃ s₄ t distribution created remote sibling e hready hdistribute hshare
      hwrote hfail =>
      obtain ⟨prepared, hsync⟩ := hready.synced
      have hreach₃ := distributeMissing_reaches (hcurrent₂ hready) hdistribute
      have hreach₄ := local_localSiblingSenderKeyDistribution now distribution s₃
      rw [hshare] at hreach₄
      have hreach : s₄.Reaches t := by
        obtain ⟨-, -, -, hsessions₂, -⟩ := hready.spec
        have hdevice : s₁.sessions.localDevicePubkey = s₄.sessions.localDevicePubkey := by
          rw [hreach₄.sessions.localDevicePubkey, hreach₃.sessions.localDevicePubkey, hsessions₂]
        have hemit := emitSenderKeyMessage_reaches now group body s₄
        rw [← hdevice, hfail] at hemit
        exact hemit
      refine ⟨e, t, ?_, ?_⟩
      · unfold sendSenderKeyMessage localDevicePubkey manager
        rw [exec_bind_ok hsync, exec_read_bind, exec_read_bind, exec_bind_ok hready.ensured]
        exact (exec_bind_ok hdistribute _).trans ((exec_bind_ok hshare _).trans
          (exec_bind_error hfail _))
      · cases created with
        | true => exact hready.changed_of_created (hreach₃.trans (hreach₄.trans hreach)) hfresh
        | false =>
            by_cases hmissing : missingRecipients group s₁.sessions.localDevicePubkey
              distribution s₂ = []
            case neg => exact hready.changed_of_recipient hmissing hdistribute (hreach₄.trans hreach)
            have hquiet := hready.quiet hmissing hdistribute
            have hmoved : ∀ record plan, Advanced now group
                (s₄.manager.localSenderKeyId group.groupId s₁.sessions.localDevicePubkey) body s₄
                record plan t.toGroupTrail → t.manager.senderKeys ≠ s.manager.senderKeys :=
              fun record plan hadvanced => hadvanced.changed hquiet hshare
            obtain hcreated | hne | hcopy | ⟨record, -, -, plan, hadvanced⟩ := hwrote
            · cases hcreated
            · exact absurd hmissing hne
            · obtain ⟨-, ⟨_, _, _, _, heq, -⟩ | ⟨-, hsame | ⟨record, plan, -, hadvanced⟩⟩⟩ :=
                emitSenderKeyMessage_cases hfail
              · cases heq
              · rw [congrArg GroupTrail.manager hsame, ← hquiet]
                exact hcopy
              · exact hmoved record plan hadvanced
            · exact hmoved record plan hadvanced

end GroupM

section

open Program

variable [Primitives K T] [InvitePrimitives K T] [GroupPayloadCodec K T] [DecidableEq T]

end

namespace GroupWire

/-- Bytes that are no text. -/
def exampleSealedBody : TextTerm := .sealed (.secret 1) (.secret 2) (.bytes "hello")

end GroupWire

end NostrDoubleRatchet
