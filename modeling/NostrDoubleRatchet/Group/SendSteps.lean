import NostrDoubleRatchet.Group.Runs

/-!
The steps of a send to a sender-key group, and the one message it hands to the caller.
-/

namespace NostrDoubleRatchet

variable {K T : Type} [LinearOrder K] [Primitives K T] [InvitePrimitives K T]
  [GroupPayloadCodec K T]

namespace GroupM

open Program

omit [GroupPayloadCodec K T] in
theorem fanoutRecipients_messages (now : UnixSeconds) (payload : T)
    (recipients : List (OwnerPubkey K)) {prepared : GroupPreparedPublish K T}
    (h : prepared.senderKeyMessages = []) :
    Yields (fun prepared : GroupPreparedPublish K T => prepared.senderKeyMessages = [])
      (fanoutRecipients now payload recipients prepared) := by
  induction recipients generalizing prepared with
  | nil => exact Yields.pure h
  | cons recipient rest ih => exact (Yields.true _).bind fun _ _ => ih h

theorem fanoutPayload_messages (now : UnixSeconds) (recipients : List (OwnerPubkey K))
    (command : GroupPairwiseCommand K T) :
    Yields (fun prepared : GroupPreparedPublish K T => prepared.senderKeyMessages = [])
      (fanoutPayload now recipients command) :=
  (Yields.true _).bind fun _ _ =>
    (fanoutRecipients_messages now _ recipients rfl).bind fun _ hprepared =>
      (Yields.true _).bind fun _ _ => Yields.pure hprepared

theorem localSiblingPayload_messages (now : UnixSeconds) (command : GroupPairwiseCommand K T) :
    Yields (fun prepared : GroupPreparedPublish K T => prepared.senderKeyMessages = [])
      (localSiblingPayload now command) := by
  refine (Yields.true _).bind fun sessions _ => ?_
  split
  · exact Yields.pure rfl
  · have hbytes : ∀ bytes, Yields (fun prepared : GroupPreparedPublish K T =>
        prepared.senderKeyMessages = []) (localSiblingPayloadBytes (K := K) now bytes) :=
      fun bytes => (Yields.true _).bind fun _ _ => Yields.pure rfl
    exact (Yields.true _).bind fun bytes _ => (hbytes bytes).bind fun _ hprepared =>
      (Yields.true _).bind fun _ _ => Yields.pure hprepared

theorem distributeMissing_messages (now : UnixSeconds) (recipients : List (OwnerPubkey K))
    (distribution : SenderKeyDistribution K) :
    Yields (fun prepared : GroupPreparedPublish K T => prepared.senderKeyMessages = [])
      (distributeMissing now recipients distribution) := by
  unfold distributeMissing
  split
  · exact Yields.pure rfl
  · exact (fanoutPayload_messages now recipients _).bind fun _ hprepared =>
      (Yields.true _).bind fun _ _ => (Yields.true _).bind fun _ _ =>
        (Yields.true _).bind fun _ _ => Yields.pure hprepared

theorem localSiblingSenderKeyDistribution_messages (now : UnixSeconds)
    (distribution : SenderKeyDistribution K) :
    Yields (fun prepared : GroupPreparedPublish K T => prepared.senderKeyMessages = [])
      (localSiblingSenderKeyDistribution now distribution) :=
  (localSiblingPayload_messages now _).bind fun _ hprepared =>
    (Yields.true _).bind fun _ _ => (Yields.true _).bind fun _ _ => Yields.pure hprepared

/-- The program leaves the manager alone. -/
def Steady {α : Type} (x : GroupM K T α) : Prop := Moves (fun s t => t.manager = s.manager) x

section Steady

omit [Primitives K T] [InvitePrimitives K T] [GroupPayloadCodec K T]

theorem Steady.bind {α β : Type} {x : GroupM K T α} {f : α → GroupM K T β} (hx : Steady x)
    (hf : ∀ a, Steady (f a)) : Steady (x >>= f) :=
  Moves.bind (fun _ _ _ hst htu => htu.trans hst) hx hf

theorem Steady.pure {α : Type} (a : α) : Steady (Pure.pure a : GroupM K T α) := fun _ => rfl

end Steady

theorem steady_localSiblingPayload (now : UnixSeconds) (command : GroupPairwiseCommand K T) :
    Steady (localSiblingPayload now command) := by
  intro s
  obtain h | h := localSiblingPayload_published now command s
  · exact h.manager
  · exact h.manager

theorem steady_fanoutPayload (now : UnixSeconds) (recipients : List (OwnerPubkey K))
    (command : GroupPairwiseCommand K T) : Steady (fanoutPayload now recipients command) := by
  intro s
  generalize hrun : exec (fanoutPayload now recipients command) s = outcome
  obtain ⟨result, t⟩ := outcome
  obtain ⟨_, -, h⟩ | ⟨-, h⟩ := fanoutPayload_published hrun
  · exact h.manager
  · exact h.manager

/-- The steps of a successful `send_sender_key_message`. -/
structure SendSteps (now : UnixSeconds) (group : GroupRecord K) (body : T)
    (s s₁ s₂ s₃ s₄ t : GroupWorld K T) (distribution : SenderKeyDistribution K)
    (message : GroupSenderKeyMessageEnvelope K T) : Prop where
  synced : ∃ prepared, exec (localSiblingSync now group) s = (.ok prepared, s₁)
  ensured : ∃ created, exec (ensureLocalSenderKeyRecord now group s₁.sessions.localDevicePubkey
    (s₁.manager.localSenderKeyHasRemovedRecipients group s₁.sessions.localDevicePubkey)) s₁ =
      (.ok (distribution, created), s₂)
  distributed : ∃ prepared, exec (distributeMissing now
    (s₂.manager.senderKeyDistributionRecipients group s₁.sessions.localDevicePubkey
      distribution.keyId (group.remoteMembers s₂.manager.localOwnerPubkey)) distribution) s₂ =
        (.ok prepared, s₃)
  shared : ∃ prepared, exec (localSiblingSenderKeyDistribution now distribution) s₃ =
    (.ok prepared, s₄)
  emitted : exec (emitSenderKeyMessage now group s₁.sessions.localDevicePubkey body) s₄ =
    (.ok message, t)

variable [DecidableEq T]

/-- A successful send has emitted one message. -/
theorem sendSenderKeyMessage_steps {now : UnixSeconds} {group : GroupRecord K} {body : T}
    {s t : GroupWorld K T} {prepared : GroupPreparedSend K T}
    (h : exec (sendSenderKeyMessage now group body) s = (.ok prepared, t)) :
    ∃ s₁ s₂ s₃ s₄ distribution message,
      SendSteps now group body s s₁ s₂ s₃ s₄ t distribution message ∧
      prepared.remote.senderKeyMessages = [message] ∧
      ∀ found ∈ prepared.localSibling.senderKeyMessages, found = message := by
  unfold sendSenderKeyMessage localDevicePubkey manager at h
  obtain ⟨localSibling, s₁, hsync, h⟩ := bind_eq_ok.mp h
  rw [exec_read_bind, exec_read_bind] at h
  obtain ⟨⟨distribution, created⟩, s₂, hensure, h⟩ := bind_eq_ok.mp h
  rw [exec_read_bind] at h
  obtain ⟨remote, s₃, hdistribute, h⟩ := bind_eq_ok.mp h
  obtain ⟨sibling, s₄, hshare, h⟩ := bind_eq_ok.mp h
  obtain ⟨message, s₅, hemit, h⟩ := bind_eq_ok.mp h
  rw [exec_read_bind] at h
  cases h
  refine ⟨s₁, s₂, s₃, s₄, distribution, message,
    ⟨⟨_, hsync⟩, ⟨_, hensure⟩, ⟨_, hdistribute⟩, ⟨_, hshare⟩, hemit⟩, ?_, ?_⟩
  · change remote.senderKeyMessages ++ [message] = [message]
    rw [distributeMissing_messages now _ _ _ _ _ hdistribute, List.nil_append]
  · have hmerged : (mergeGroupPreparedPublish localSibling sibling).senderKeyMessages = [] := by
      change localSibling.senderKeyMessages ++ sibling.senderKeyMessages = []
      rw [localSiblingPayload_messages now _ _ _ _ hsync,
        localSiblingSenderKeyDistribution_messages now _ _ _ _ hshare, List.nil_append]
    intro found hfound
    dsimp only at hfound
    split at hfound
    · rw [hmerged] at hfound
      exact List.mem_singleton.mp hfound
    · rw [hmerged] at hfound
      cases hfound

/-- A send to a known group: refused, on a sender key, or by a fan-out that leaves the
manager alone and emits no sender-key message. -/
theorem sendMessage_cases {now : UnixSeconds} {groupId : String} {body : T}
    {s t : GroupWorld K T} {group : GroupRecord K} {result : Except Error (GroupPreparedSend K T)}
    (hgroup : s.manager.groups.get? groupId = some group)
    (h : exec (sendMessage now groupId body) s = (result, t)) :
    (s.manager.localOwnerPubkey ∉ group.members ∧ t = s ∧ ∃ e, result = .error e) ∨
    (s.manager.localOwnerPubkey ∈ group.members ∧ group.protocol.isSenderKeyV1 = true ∧
      exec (sendSenderKeyMessage now group body) s = (result, t)) ∨
    (group.protocol.isSenderKeyV1 = false ∧ t.manager = s.manager ∧
      ∀ prepared, result = .ok prepared → prepared.remote.senderKeyMessages = [] ∧
        prepared.localSibling.senderKeyMessages = []) := by
  have hfound : exec (groupRecord groupId) s = (.ok group, s) := by
    unfold groupRecord manager
    rw [exec_read_bind, GroupManager.groupRecord, hgroup]
    rfl
  unfold sendMessage localOwnerPubkey at h
  rw [exec_bind_ok hfound, exec_read_bind, exec_ofExcept_bind] at h
  by_cases hmember : s.manager.localOwnerPubkey ∈ group.members
  · have hensure : group.ensureMember s.manager.localOwnerPubkey = .ok () :=
      ensure_eq_ok.mpr (decide_eq_true hmember)
    rw [hensure] at h
    dsimp only at h
    cases hprotocol : group.protocol.isSenderKeyV1 with
    | true =>
        rw [hprotocol, if_pos rfl] at h
        exact Or.inr (Or.inl ⟨hmember, rfl, h⟩)
    | false =>
        rw [hprotocol, if_neg Bool.false_ne_true] at h
        refine Or.inr (Or.inr ⟨rfl, ?_, ?_⟩)
        · have hsteady : Steady (do
              let localSibling ← localSiblingSync now group
              let siblingMessage ← localSiblingPayload now
                (.groupMessage group.groupId group.revision body)
              let remote ← fanoutPayload now (group.remoteMembers s.manager.localOwnerPubkey)
                (.groupMessage group.groupId group.revision body)
              pure (⟨group.groupId, remote, mergeGroupPreparedPublish localSibling
                siblingMessage⟩ : GroupPreparedSend K T)) :=
            (steady_localSiblingPayload now _).bind fun _ =>
              (steady_localSiblingPayload now _).bind fun _ =>
                (steady_fanoutPayload now _ _).bind fun _ => Steady.pure _
          have hmanager := hsteady s
          rw [h] at hmanager
          exact hmanager
        · rintro prepared rfl
          obtain ⟨synced, s₁, hsync, h⟩ := bind_eq_ok.mp h
          obtain ⟨sibling, s₂, hsibling, h⟩ := bind_eq_ok.mp h
          obtain ⟨remote, s₃, hremote, h⟩ := bind_eq_ok.mp h
          cases h
          refine ⟨fanoutPayload_messages now _ _ _ _ _ hremote, ?_⟩
          change synced.senderKeyMessages ++ sibling.senderKeyMessages = []
          rw [localSiblingPayload_messages now _ _ _ _ hsync,
            localSiblingPayload_messages now _ _ _ _ hsibling, List.nil_append]
  · have hensure : ∃ e, group.ensureMember s.manager.localOwnerPubkey = .error e := by
      unfold GroupRecord.ensureMember ensure
      rw [if_neg (by simpa using hmember)]
      exact ⟨_, rfl⟩
    obtain ⟨e, he⟩ := hensure
    rw [he] at h
    cases h
    exact Or.inl ⟨hmember, rfl, e, rfl⟩

end GroupM

end NostrDoubleRatchet
