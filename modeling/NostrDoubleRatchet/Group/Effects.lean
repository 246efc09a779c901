import Mathlib.Logic.Relation
import NostrDoubleRatchet.Group.Management
import NostrDoubleRatchet.SessionManager.SendSpec

/-!
What the local operations of a group manager can do to it. Every operation is a sequence of
the effects of `GroupEffect`, each of which changes the sender keys or the log, followed by
at most one change of a group record. The invariants of the manager are proved once per
effect.
-/

namespace NostrDoubleRatchet

variable {K T : Type} [LinearOrder K]

namespace SessionManager

variable [Primitives K T] [InvitePrimitives K T]

private theorem sameOutside_prepareDeviceDelivery (manager : SessionManager K T)
    (owner : OwnerPubkey K) (device : DevicePubkey K) (payload : T) (now : UnixSeconds)
    (refresh : Bool) (rng : Rng K) :
    manager.SameOutside (manager.prepareDeviceDelivery owner device payload now refresh
      rng).2.1 := by
  generalize hcall : manager.prepareDeviceDelivery owner device payload now refresh rng = outcome
  obtain ⟨result, manager', rng'⟩ := outcome
  obtain ⟨rfl, -⟩ | ⟨_, _, record', _, rfl, -⟩ := prepareDeviceDelivery_cases hcall
  · exact sameOutside_setDevice _ _ _ _
  · exact sameOutside_setDevice _ _ _ _

private theorem sameOutside_prepareTarget (payload : T) (now : UnixSeconds) (refresh : Bool)
    (manager : SessionManager K T) (target : TargetDevice K) (collected : Collected K T)
    (rng : Rng K) :
    manager.SameOutside (prepareTarget payload now refresh manager target collected rng).2.1 := by
  rw [prepareTarget_manager]
  exact sameOutside_prepareDeviceDelivery manager _ _ payload now refresh rng

private theorem sameOutside_prepareTargetAllSessions (payload : T) (now : UnixSeconds)
    (manager : SessionManager K T) (target : TargetDevice K) (collected : Collected K T)
    (rng : Rng K) :
    manager.SameOutside
      (prepareTargetAllSessions payload now manager target collected rng).2.1 := by
  have hsame : manager.SameOutside (manager.prepareDeviceDeliveriesForAllSendSessions
      target.ownerPubkey target.devicePubkey payload now rng).2.1 := by
    generalize hcall : manager.prepareDeviceDeliveriesForAllSendSessions target.ownerPubkey
      target.devicePubkey payload now rng = outcome
    obtain ⟨result, manager', rng'⟩ := outcome
    obtain ⟨rfl, -⟩ | ⟨record', rfl, -⟩ := prepareDeviceDeliveriesForAllSendSessions_cases hcall
    · exact sameOutside_setDevice _ _ _ _
    · exact sameOutside_setDevice _ _ _ _
  unfold prepareTargetAllSessions
  split
  · rename_i hcall
    rw [hcall] at hsame
    exact hsame
  · rename_i hcall
    rw [hcall] at hsame
    exact hsame.trans (sameOutside_prepareTarget _ _ _ _ _ _ _)
  · rename_i hcall
    rw [hcall] at hsame
    exact hsame

/-- Sending changes nothing but the records of the users. -/
theorem sameOutside_prepareRemoteSend (manager : SessionManager K T)
    (recipientOwner : OwnerPubkey K) (payload : T) (now : UnixSeconds) (rng : Rng K) :
    manager.SameOutside (manager.prepareRemoteSend recipientOwner payload now rng).2.1 := by
  unfold prepareRemoteSend prepareSendInner
  dsimp only
  rw [prepareExplicitSend_manager]
  exact fanOut_manager
    (fun target collected next rng h =>
      h.trans (sameOutside_prepareTarget payload now false next target collected rng))
    _ _ rng (SameOutside.refl manager)

theorem sameOutside_prepareLocalSiblingSendReusingAllSessions (manager : SessionManager K T)
    (payload : T) (now : UnixSeconds) (rng : Rng K) :
    manager.SameOutside
      (manager.prepareLocalSiblingSendReusingAllSessions payload now rng).2.1 := by
  rw [prepareLocalSiblingSendReusingAllSessions_manager]
  exact fanOut_manager
    (fun target collected next rng h =>
      h.trans (sameOutside_prepareTargetAllSessions payload now next target collected rng))
    _ _ rng (SameOutside.refl manager)

end SessionManager

namespace GroupTrail

/-- The trail after a command was addressed to owners. -/
def address (trail : GroupTrail K T) (owners : List (OwnerPubkey K))
    (command : GroupPairwiseCommand K T) : GroupTrail K T :=
  { trail with log := trail.log ++ owners.map (.addressed · command) }

def onManager (trail : GroupTrail K T) (f : GroupManager K → GroupManager K) : GroupTrail K T :=
  { trail with manager := f trail.manager }

def localId (trail : GroupTrail K T) (groupId : String) (device : DevicePubkey K) :
    SenderKeyRecordId K :=
  trail.manager.localSenderKeyId groupId device

/-- The distribution states where the own chain under its key id stands. -/
def Current (trail : GroupTrail K T) (device : DevicePubkey K)
    (distribution : SenderKeyDistribution K) : Prop :=
  ∃ record state,
    trail.manager.senderKeys.get? (trail.localId distribution.groupId device) = some record ∧
    record.states.get? distribution.keyId = some state ∧
    distribution.iteration = state.iteration

end GroupTrail

/-- The changes an operation can make to sender keys and log, for the session manager of
`owner` on `device`. -/
inductive GroupEffect (owner : OwnerPubkey K) (device : DevicePubkey K) :
    GroupTrail K T → GroupTrail K T → Prop
  | announced (trail : GroupTrail K T) (owners : List (OwnerPubkey K))
      (command : GroupPairwiseCommand K T)
      (hcommand : ∀ distribution, command ≠ .senderKeyDistribution distribution) :
      GroupEffect owner device trail (trail.address owners command)
  | shared (trail : GroupTrail K T) (command : GroupPairwiseCommand K T) :
      GroupEffect owner device trail (trail.address [owner] command)
  | created (trail : GroupTrail K T) (groupId : String) (pubkey : SenderEventPubkey K)
      (secret : K)
      (habsent : trail.manager.senderKeys.get? (trail.localId groupId device) = none) :
      GroupEffect owner device trail {
        manager := trail.manager.addSenderKey (trail.localId groupId device)
          (SenderKeyRecord.fresh (trail.localId groupId device) pubkey (some secret) none)
        log := trail.log ++ [.created (trail.localId groupId device) pubkey] }
  | started (trail : GroupTrail K T) (groupId : String) (record : SenderKeyRecord K)
      (distribution : SenderKeyDistribution K)
      (hrecord : trail.manager.senderKeys.get? (trail.localId groupId device) = some record) :
      GroupEffect owner device trail {
        manager := trail.manager.setSenderKey (trail.localId groupId device)
          { record.startChain distribution.keyId distribution.chainKey with
            distributionHistory :=
              record.distributionHistory.insert distribution.keyId distribution }
        log := trail.log ++ [.started (trail.localId groupId device) distribution.keyId] }
  | distributed (trail : GroupTrail K T) (recipients : List (OwnerPubkey K))
      (distribution : SenderKeyDistribution K)
      (hcurrent : trail.Current device distribution) :
      GroupEffect owner device trail
        ((trail.address recipients (.senderKeyDistribution distribution)).onManager fun manager =>
          (manager.recordSenderKeyRepairSnapshot distribution.groupId device distribution
            recipients).markSenderKeyDistributionRecipients distribution.groupId device
              distribution.keyId recipients)
  | remembered (trail : GroupTrail K T) (distribution : SenderKeyDistribution K) :
      GroupEffect owner device trail (trail.onManager fun manager =>
        manager.recordSenderKeyRepairSnapshot distribution.groupId device distribution
          [manager.localOwnerPubkey])
  | repaired (trail : GroupTrail K T) (requester : OwnerPubkey K) (id : SenderKeyRecordId K)
      (record : SenderKeyRecord K) (snapshot : GroupSenderKeyRepairSnapshot K)
      (howner : id.senderOwner = trail.manager.localOwnerPubkey)
      (hrecord : trail.manager.senderKeys.get? id = some record)
      (hsecret : record.senderEventSecretKey.isSome)
      (hsnapshot : snapshot ∈ record.repairSnapshots)
      (hrecipient : requester ∈ snapshot.recipients) :
      GroupEffect owner device trail
        (trail.address [requester] (.senderKeyDistribution snapshot.distribution))
  | emitted (trail : GroupTrail K T) (groupId : String) (record : SenderKeyRecord K)
      (keyId : Nat) (state next : SenderKeyState K)
      (hrecord : trail.manager.senderKeys.get? (trail.localId groupId device) = some record)
      (hlatest : record.latestKeyId = some keyId) (hstate : record.states.get? keyId = some state)
      (hnext : next.keyId = state.keyId) (hiteration : state.iteration ≤ next.iteration) :
      GroupEffect owner device trail (trail.onManager
        (·.setSenderKey (trail.localId groupId device) { record with
          states := record.states.insert keyId next }))

namespace GroupManager

/-- What no effect touches: the groups, the local owner, and that a record is there. -/
structure Frame (manager next : GroupManager K) : Prop where
  groups : next.groups = manager.groups
  localOwnerPubkey : next.localOwnerPubkey = manager.localOwnerPubkey
  isSome : ∀ id, (manager.senderKeys.get? id).isSome → (next.senderKeys.get? id).isSome

namespace Frame

theorem refl (manager : GroupManager K) : manager.Frame manager := ⟨rfl, rfl, fun _ h => h⟩

theorem trans {a b c : GroupManager K} (hab : a.Frame b) (hbc : b.Frame c) : a.Frame c :=
  ⟨hbc.groups.trans hab.groups, hbc.localOwnerPubkey.trans hab.localOwnerPubkey,
    fun id h => hbc.isSome id (hab.isSome id h)⟩

end Frame

theorem isSome_insert {senderKeys : SortedMap (SenderKeyRecordId K) (SenderKeyRecord K)}
    {id id' : SenderKeyRecordId K} {record : SenderKeyRecord K}
    (h : (senderKeys.get? id').isSome) : ((senderKeys.insert id record).get? id').isSome := by
  rw [SortedMap.get?_insert]
  split
  · rfl
  · exact h

theorem frame_setSenderKey (manager : GroupManager K) (id : SenderKeyRecordId K)
    (record : SenderKeyRecord K) : manager.Frame (manager.setSenderKey id record) :=
  ⟨rfl, rfl, fun _ h => isSome_insert h⟩

theorem frame_modifySenderKey (manager : GroupManager K) (id : SenderKeyRecordId K)
    (f : SenderKeyRecord K → SenderKeyRecord K) : manager.Frame (manager.modifySenderKey id f) := by
  unfold modifySenderKey
  split
  · exact Frame.refl manager
  · exact frame_setSenderKey manager id _

theorem frame_recordSenderKeyRepairSnapshot (manager : GroupManager K) (groupId : String)
    (device : DevicePubkey K) (distribution : SenderKeyDistribution K)
    (recipients : List (OwnerPubkey K)) :
    manager.Frame
      (manager.recordSenderKeyRepairSnapshot groupId device distribution recipients) := by
  unfold recordSenderKeyRepairSnapshot
  split
  · exact Frame.refl manager
  · exact frame_modifySenderKey manager _ _

theorem frame_markSenderKeyDistributionRecipients (manager : GroupManager K) (groupId : String)
    (device : DevicePubkey K) (keyId : Nat) (recipients : List (OwnerPubkey K)) :
    manager.Frame
      (manager.markSenderKeyDistributionRecipients groupId device keyId recipients) := by
  unfold markSenderKeyDistributionRecipients
  split
  · exact Frame.refl manager
  · exact frame_modifySenderKey manager _ _

end GroupManager

theorem GroupEffect.frame {owner : OwnerPubkey K} {device : DevicePubkey K}
    {trail next : GroupTrail K T} (h : GroupEffect owner device trail next) :
    trail.manager.Frame next.manager := by
  cases h with
  | announced owners command hcommand => exact GroupManager.Frame.refl _
  | shared command => exact GroupManager.Frame.refl _
  | created groupId pubkey secret habsent =>
      exact ⟨rfl, rfl, fun _ hsome => GroupManager.isSome_insert hsome⟩
  | started groupId record distribution hrecord => exact GroupManager.frame_setSenderKey _ _ _
  | distributed recipients distribution hcurrent =>
      exact (GroupManager.frame_recordSenderKeyRepairSnapshot _ _ _ _ _).trans
        (GroupManager.frame_markSenderKeyDistributionRecipients _ _ _ _ _)
  | remembered distribution =>
      exact GroupManager.frame_recordSenderKeyRepairSnapshot trail.manager distribution.groupId
        device distribution [trail.manager.localOwnerPubkey]
  | repaired requester id record snapshot howner hrecord hsecret hsnapshot hrecipient =>
      exact GroupManager.Frame.refl _
  | emitted groupId record keyId state advanced hrecord hlatest hstate hnext hiteration =>
      exact GroupManager.frame_setSenderKey _ _ _

/-- What a call does to the world: a sequence of effects, for the same session owner. -/
structure GroupWorld.Reaches (s t : GroupWorld K T) : Prop where
  sessions : s.sessions.SameOutside t.sessions
  effects : Relation.ReflTransGen
    (GroupEffect s.sessions.localOwnerPubkey s.sessions.localDevicePubkey)
    s.toGroupTrail t.toGroupTrail

namespace GroupWorld.Reaches

theorem of_trail_eq {s t : GroupWorld K T} (hsessions : s.sessions.SameOutside t.sessions)
    (htrail : t.toGroupTrail = s.toGroupTrail) : s.Reaches t := by
  refine ⟨hsessions, ?_⟩
  rw [htrail]

theorem refl (s : GroupWorld K T) : s.Reaches s :=
  of_trail_eq (SessionManager.SameOutside.refl _) rfl

theorem trans {s t u : GroupWorld K T} (hst : s.Reaches t) (htu : t.Reaches u) : s.Reaches u := by
  refine ⟨hst.sessions.trans htu.sessions, hst.effects.trans ?_⟩
  rw [← hst.sessions.localOwnerPubkey, ← hst.sessions.localDevicePubkey]
  exact htu.effects

theorem of_effect {s t : GroupWorld K T} (hsessions : s.sessions.SameOutside t.sessions)
    (h : GroupEffect s.sessions.localOwnerPubkey s.sessions.localDevicePubkey
      s.toGroupTrail t.toGroupTrail) : s.Reaches t :=
  ⟨hsessions, Relation.ReflTransGen.single h⟩

/-- What every effect preserves, a call preserves. -/
theorem preserves {s t : GroupWorld K T} (h : s.Reaches t) {I : GroupTrail K T → Prop}
    (hstep : ∀ trail next, GroupEffect s.sessions.localOwnerPubkey s.sessions.localDevicePubkey
      trail next → I trail → I next) (hI : I s.toGroupTrail) : I t.toGroupTrail := by
  obtain ⟨-, heffects⟩ := h
  generalize t.toGroupTrail = last at heffects ⊢
  induction heffects with
  | refl => exact hI
  | tail _ heffect ih => exact hstep _ _ heffect ih

theorem frame {s t : GroupWorld K T} (h : s.Reaches t) : s.manager.Frame t.manager :=
  h.preserves (I := fun trail => s.manager.Frame trail.manager)
    (fun _ _ heffect hframe => hframe.trans heffect.frame) (GroupManager.Frame.refl _)

end GroupWorld.Reaches

namespace GroupM

open Program

/-- The program is a sequence of effects. -/
def Local {α : Type} (x : GroupM K T α) : Prop := Moves GroupWorld.Reaches x

namespace Local

variable {α β : Type}

theorem pure (a : α) : Local (Pure.pure a : GroupM K T α) := Moves.pure GroupWorld.Reaches.refl a

theorem ofExcept (result : Except Error α) : Local (Program.ofExcept result : GroupM K T α) :=
  Moves.ofExcept GroupWorld.Reaches.refl result

theorem read (f : GroupWorld K T → α) : Local (Program.read f : GroupM K T α) :=
  Moves.read GroupWorld.Reaches.refl f

theorem bind {x : GroupM K T α} {f : α → GroupM K T β} (hx : Local x) (hf : ∀ a, Local (f a)) :
    Local (x >>= f) :=
  Moves.bind (fun _ _ _ hst htu => hst.trans htu) hx hf

theorem map {x : GroupM K T α} (hx : Local x) (f : α → β) : Local (f <$> x) := by
  intro s
  rw [exec_map]
  exact hx s

theorem draw (x : RandM K α) : Local (GroupM.draw x : GroupM K T α) := fun _ =>
  GroupWorld.Reaches.of_trail_eq (SessionManager.SameOutside.refl _) rfl

end Local

/-- What a call that leaves the manager alone does: it logs the given entries. -/
structure Published (s t : GroupWorld K T) (entries : List (GroupLogEntry K T)) : Prop where
  sessions : s.sessions.SameOutside t.sessions
  manager : t.manager = s.manager
  log : t.log = s.log ++ entries

namespace Published

theorem refl (s : GroupWorld K T) : Published s s [] :=
  ⟨SessionManager.SameOutside.refl _, rfl, (List.append_nil _).symm⟩

theorem trans {s t u : GroupWorld K T} {entries more : List (GroupLogEntry K T)}
    (hst : Published s t entries) (htu : Published t u more) :
    Published s u (entries ++ more) :=
  ⟨hst.sessions.trans htu.sessions, htu.manager.trans hst.manager, by
    rw [htu.log, hst.log, List.append_assoc]⟩

theorem trail {s t : GroupWorld K T} {entries : List (GroupLogEntry K T)}
    (h : Published s t entries) :
    t.toGroupTrail = { s.toGroupTrail with log := s.log ++ entries } := by
  have hmanager := h.manager
  have hlog := h.log
  obtain ⟨⟨manager, log⟩, sessions, rng⟩ := t
  cases hmanager
  cases hlog
  rfl

theorem reaches {s t : GroupWorld K T} (h : Published s t []) : s.Reaches t := by
  refine GroupWorld.Reaches.of_trail_eq h.sessions ?_
  rw [h.trail, List.append_nil]

end Published

/-- The program leaves manager and log alone. -/
def Quiet {α : Type} (x : GroupM K T α) : Prop := Moves (Published · · []) x

theorem Quiet.bind {α β : Type} {x : GroupM K T α} {f : α → GroupM K T β} (hx : Quiet x)
    (hf : ∀ a, Quiet (f a)) : Quiet (x >>= f) :=
  Moves.bind (fun _ _ _ hst htu => hst.trans htu) hx hf

theorem Quiet.pure {α : Type} (a : α) : Quiet (Pure.pure a : GroupM K T α) :=
  Moves.pure Published.refl a

theorem quiet_callSessions {α : Type} {call : SessionManager K T → Rng K → Outcome K T α}
    (hcall : ∀ (sessions : SessionManager K T) (rng : Rng K),
      sessions.SameOutside (call sessions rng).2.1) :
    Quiet (callSessions call) :=
  fun s => ⟨hcall s.sessions s.rng.toRng, rfl, (List.append_nil _).symm⟩

section Publishing

variable [Primitives K T] [InvitePrimitives K T]

theorem quiet_fanoutRecipients (now : UnixSeconds) (payload : T)
    (recipients : List (OwnerPubkey K)) (prepared : GroupPreparedPublish K T) :
    Quiet (fanoutRecipients now payload recipients prepared) := by
  induction recipients generalizing prepared with
  | nil => exact Quiet.pure prepared
  | cons recipient rest ih =>
      exact Quiet.bind
        (quiet_callSessions fun sessions rng =>
          sessions.sameOutside_prepareRemoteSend recipient payload now rng)
        (fun _ => ih _)

theorem quiet_localSiblingPayloadBytes (now : UnixSeconds) (payload : T) :
    Quiet (localSiblingPayloadBytes (K := K) now payload) :=
  Quiet.bind
    (quiet_callSessions fun sessions rng =>
      sessions.sameOutside_prepareLocalSiblingSendReusingAllSessions payload now rng)
    (fun _ => Quiet.pure _)

variable [GroupPayloadCodec K T]

omit [Primitives K T] [InvitePrimitives K T] in
theorem exec_encodePairwiseCommand (now : UnixSeconds) (command : GroupPairwiseCommand K T)
    (s : GroupWorld K T) :
    exec (encodePairwiseCommand now command) s =
      (GroupPayloadCodec.encodePairwiseCommand ⟨s.sessions.localDevicePubkey, now⟩ command,
        s) := rfl

/-- A fan-out addresses all its recipients, or fails and addresses none. -/
theorem fanoutPayload_published {now : UnixSeconds} {recipients : List (OwnerPubkey K)}
    {command : GroupPairwiseCommand K T} {s t : GroupWorld K T}
    {result : Except Error (GroupPreparedPublish K T)}
    (h : exec (fanoutPayload now recipients command) s = (result, t)) :
    (∃ prepared, result = .ok prepared ∧
      Published s t (recipients.map (.addressed · command))) ∨
    ((∃ e, result = .error e) ∧ Published s t []) := by
  unfold fanoutPayload at h
  cases hbytes : GroupPayloadCodec.encodePairwiseCommand ⟨s.sessions.localDevicePubkey, now⟩
      command with
  | error e =>
      have hencode := exec_encodePairwiseCommand now command s
      rw [hbytes] at hencode
      rw [exec_bind_error hencode] at h
      cases h
      exact Or.inr ⟨⟨e, rfl⟩, Published.refl s⟩
  | ok bytes =>
      have hencode := exec_encodePairwiseCommand now command s
      rw [hbytes] at hencode
      rw [exec_bind_ok hencode] at h
      have hloop := quiet_fanoutRecipients now bytes recipients GroupPreparedPublish.empty s
      generalize hrun : exec (fanoutRecipients now bytes recipients GroupPreparedPublish.empty) s =
        outcome at hloop
      obtain ⟨_ | prepared, mid⟩ := outcome
      · rw [exec_bind_error hrun] at h
        cases h
        exact Or.inr ⟨⟨_, rfl⟩, hloop⟩
      · rw [exec_bind_ok hrun] at h
        cases h
        refine Or.inl ⟨_, rfl, hloop.sessions, hloop.manager, ?_⟩
        exact congrArg (· ++ _) (hloop.log.trans (List.append_nil _))

/-- A sibling payload goes to the owner of the session manager, or nowhere. -/
theorem localSiblingPayload_published (now : UnixSeconds) (command : GroupPairwiseCommand K T)
    (s : GroupWorld K T) :
    Published s (exec (localSiblingPayload now command) s).2 [] ∨
      Published s (exec (localSiblingPayload now command) s).2
        [.addressed s.sessions.localOwnerPubkey command] := by
  unfold localSiblingPayload
  rw [exec_read_bind]
  split
  · exact Or.inl (Published.refl s)
  have hencode := exec_encodePairwiseCommand now command s
  cases hbytes : GroupPayloadCodec.encodePairwiseCommand ⟨s.sessions.localDevicePubkey, now⟩
      command with
  | error e =>
      rw [hbytes] at hencode
      rw [exec_bind_error hencode]
      exact Or.inl (Published.refl s)
  | ok bytes =>
      rw [hbytes] at hencode
      rw [exec_bind_ok hencode]
      have hsend := quiet_localSiblingPayloadBytes now bytes s
      generalize hrun : exec (localSiblingPayloadBytes now bytes) s = outcome at hsend
      obtain ⟨_ | prepared, mid⟩ := outcome
      · rw [exec_bind_error hrun]
        exact Or.inl hsend
      · rw [exec_bind_ok hrun]
        refine Or.inr ⟨hsend.sessions, hsend.manager, ?_⟩
        exact congrArg (· ++ _) (hsend.log.trans (List.append_nil _))

theorem local_localSiblingPayload (now : UnixSeconds) (command : GroupPairwiseCommand K T) :
    Local (localSiblingPayload now command) := by
  intro s
  obtain h | h := localSiblingPayload_published now command s
  · exact h.reaches
  · refine GroupWorld.Reaches.of_effect h.sessions ?_
    rw [h.trail]
    exact GroupEffect.shared s.toGroupTrail command

theorem local_fanoutPayload (now : UnixSeconds) (recipients : List (OwnerPubkey K))
    {command : GroupPairwiseCommand K T}
    (hcommand : ∀ distribution, command ≠ .senderKeyDistribution distribution) :
    Local (fanoutPayload now recipients command) := by
  intro s
  generalize hrun : exec (fanoutPayload now recipients command) s = outcome
  obtain ⟨result, t⟩ := outcome
  obtain ⟨prepared, -, h⟩ | ⟨-, h⟩ := fanoutPayload_published hrun
  · refine GroupWorld.Reaches.of_effect h.sessions ?_
    rw [h.trail]
    exact GroupEffect.announced s.toGroupTrail recipients command hcommand
  · exact h.reaches

end Publishing

section SenderKeys

variable [Primitives K T]

/-- The record a local sender key starts from: the stored one, or a new one under a
generated sender-event key. -/
inductive Opened (id : SenderKeyRecordId K) (s : GroupWorld K T) :
    SenderKeyRecord K → GroupTrail K T → Prop
  | stored {record : SenderKeyRecord K} (hrecord : s.manager.senderKeys.get? id = some record) :
      Opened id s record s.toGroupTrail
  | made {secret : K} {pubkey : SenderEventPubkey K}
      (habsent : s.manager.senderKeys.get? id = none)
      (hpubkey : devicePubkeyFromSecretBytes secret = .ok pubkey) :
      Opened id s (SenderKeyRecord.fresh id pubkey (some secret) none) {
        manager := s.manager.addSenderKey id
          (SenderKeyRecord.fresh id pubkey (some secret) none)
        log := s.log ++ [.created id pubkey] }

theorem Opened.get? {id : SenderKeyRecordId K} {s : GroupWorld K T} {record : SenderKeyRecord K}
    {trail : GroupTrail K T} (h : Opened id s record trail) :
    trail.manager.senderKeys.get? id = some record := by
  cases h with
  | stored hrecord => exact hrecord
  | made habsent hpubkey => exact SortedMap.get?_insert_self _ _ _

theorem Opened.stored_of_latest {id : SenderKeyRecordId K} {s : GroupWorld K T}
    {record : SenderKeyRecord K} {trail : GroupTrail K T} (h : Opened id s record trail)
    (hlatest : record.latestKeyId.isNone = false) :
    s.manager.senderKeys.get? id = some record ∧ trail = s.toGroupTrail := by
  cases h with
  | stored hrecord => exact ⟨hrecord, rfl⟩
  | made habsent hpubkey => cases hlatest

omit [Primitives K T] in
/-- The world after a secret key was drawn. -/
def drawnSecret (s : GroupWorld K T) : GroupWorld K T :=
  { s with rng := { s.rng with secretKeys := s.rng.secretKeys.tail } }

theorem exec_createLocalSenderKeyRecord (id : SenderKeyRecordId K) (s : GroupWorld K T) :
    exec (createLocalSenderKeyRecord id) s =
      match devicePubkeyFromSecretBytes s.rng.secretKeys.head with
      | .error e => (.error e, drawnSecret s)
      | .ok pubkey => (.ok (), { drawnSecret s with
          manager := s.manager.addSenderKey id
            (SenderKeyRecord.fresh id pubkey (some s.rng.secretKeys.head) none)
          log := s.log ++ [.created id pubkey] }) := by
  unfold createLocalSenderKeyRecord
  have hdraw : exec (draw randomSecretKeyBytes) s = (.ok s.rng.secretKeys.head, drawnSecret s) :=
    rfl
  rw [exec_bind_ok hdraw, exec_ofExcept_bind]
  cases devicePubkeyFromSecretBytes s.rng.secretKeys.head with
  | error e => rfl
  | ok pubkey => rfl

theorem openLocalSenderKeyRecord_cases {id : SenderKeyRecordId K} {s t : GroupWorld K T}
    {result : Except Error Bool}
    (h : exec (openLocalSenderKeyRecord id) s = (result, t)) :
    t.sessions = s.sessions ∧ t.rng.keyIds = s.rng.keyIds ∧
      ((∃ isNew record, result = .ok isNew ∧ Opened id s record t.toGroupTrail ∧
        (isNew = true → record.latestKeyId = none)) ∨
      ((∃ e, result = .error e) ∧ t.toGroupTrail = s.toGroupTrail)) := by
  unfold openLocalSenderKeyRecord manager at h
  rw [exec_read_bind] at h
  split at h
  · rename_i hcontains
    cases h
    obtain ⟨record, hrecord⟩ := Option.isSome_iff_exists.mp hcontains
    exact ⟨rfl, rfl, Or.inl ⟨false, record, rfl, Opened.stored hrecord, fun hnew => by cases hnew⟩⟩
  · rename_i hcontains
    have habsent : s.manager.senderKeys.get? id = none := by
      simpa [SortedMap.contains] using hcontains
    have hcreate := exec_createLocalSenderKeyRecord id s
    split at hcreate
    · rw [exec_bind_error hcreate] at h
      cases h
      exact ⟨rfl, rfl, Or.inr ⟨⟨_, rfl⟩, rfl⟩⟩
    · rename_i hpubkey
      rw [exec_bind_ok hcreate] at h
      cases h
      exact ⟨rfl, rfl, Or.inl ⟨true, _, rfl, Opened.made habsent hpubkey, fun _ => rfl⟩⟩

omit [Primitives K T] in
theorem exec_senderRecordAt {id : SenderKeyRecordId K} {s : GroupWorld K T}
    {record : SenderKeyRecord K} (h : s.manager.senderKeys.get? id = some record) :
    exec (senderRecordAt id) s = (.ok record, s) := by
  unfold senderRecordAt manager okOr
  rw [exec_read_bind, h]
  rfl

omit [Primitives K T] in
/-- The world after a chain was started in `record`. -/
def withNewChain (id : SenderKeyRecordId K) (record : SenderKeyRecord K) (s : GroupWorld K T) :
    GroupWorld K T where
  manager := s.manager.setSenderKey id
    (record.startChain s.rng.keyIds.head s.rng.chainKeys.head)
  log := s.log ++ [.started id s.rng.keyIds.head]
  sessions := s.sessions
  rng := { s.rng with keyIds := s.rng.keyIds.tail, chainKeys := s.rng.chainKeys.tail }

omit [Primitives K T] in
theorem exec_rotateIfNeeded {id : SenderKeyRecordId K} {s : GroupWorld K T}
    {record : SenderKeyRecord K} (h : s.manager.senderKeys.get? id = some record)
    (now : UnixSeconds) (forceRotate : Bool) :
    exec (rotateIfNeeded now id forceRotate) s =
      if forceRotate || record.latestKeyId.isNone then
        (.ok (some ⟨id.groupId, s.rng.keyIds.head, record.senderEventPubkey,
          s.rng.chainKeys.head, 0, now⟩), withNewChain id record s)
      else (.ok none, s) := by
  unfold rotateIfNeeded
  rw [exec_bind_ok (exec_senderRecordAt h)]
  split
  · rfl
  · rfl

omit [Primitives K T] in
theorem latestState_cases {record : SenderKeyRecord K} {s t : GroupWorld K T}
    {result : Except Error (Nat × SenderKeyState K)}
    (h : exec (latestState record) s = (result, t)) :
    t = s ∧ ∀ keyId state, result = .ok (keyId, state) →
      record.latestKeyId = some keyId ∧ record.states.get? keyId = some state := by
  unfold latestState okOr at h
  rw [exec_ofExcept_bind] at h
  cases hlatest : record.latestKeyId with
  | none =>
      rw [hlatest] at h
      cases h
      exact ⟨rfl, fun keyId state heq => by cases heq⟩
  | some keyId =>
      rw [hlatest] at h
      dsimp only [Option.elim] at h
      rw [exec_ofExcept_bind] at h
      cases hstate : record.states.get? keyId with
      | none =>
          rw [hstate] at h
          cases h
          exact ⟨rfl, fun keyId state heq => by cases heq⟩
      | some state =>
          rw [hstate] at h
          cases h
          refine ⟨rfl, ?_⟩
          intro keyId' state' heq
          cases heq
          exact ⟨rfl, hstate⟩

/-- What `ensure_local_sender_key_record` gives: the distribution of the stored chain at its
current iteration, or the first one of a chain it has started. -/
inductive Ensured (now : UnixSeconds) (id : SenderKeyRecordId K) (forceRotate : Bool)
    (s : GroupWorld K T) : SenderKeyDistribution K → GroupTrail K T → Prop
  | kept {record : SenderKeyRecord K} {keyId : Nat} {state : SenderKeyState K}
      (hforce : forceRotate = false)
      (hrecord : s.manager.senderKeys.get? id = some record)
      (hlatest : record.latestKeyId = some keyId)
      (hstate : record.states.get? keyId = some state) :
      Ensured now id forceRotate s
        ⟨id.groupId, keyId, record.senderEventPubkey, state.chainKey, state.iteration, now⟩
        s.toGroupTrail
  | rotated {record : SenderKeyRecord K} {trail : GroupTrail K T} {keyId : Nat} {chainKey : K}
      (hopened : Opened id s record trail) :
      Ensured now id forceRotate s
        ⟨id.groupId, keyId, record.senderEventPubkey, chainKey, 0, now⟩ {
          manager := trail.manager.setSenderKey id { record.startChain keyId chainKey with
            distributionHistory := record.distributionHistory.insert keyId
              ⟨id.groupId, keyId, record.senderEventPubkey, chainKey, 0, now⟩ }
          log := trail.log ++ [.started id keyId] }

theorem ensureLocalSenderKeyRecord_cases {now : UnixSeconds} {record : GroupRecord K}
    {localDevice : DevicePubkey K} {forceRotate : Bool} {s t : GroupWorld K T}
    {result : Except Error (SenderKeyDistribution K × Bool)}
    (h : exec (ensureLocalSenderKeyRecord now record localDevice forceRotate) s = (result, t)) :
    t.sessions = s.sessions ∧
      ((∃ distribution created, result = .ok (distribution, created) ∧
        Ensured now (s.manager.localSenderKeyId record.groupId localDevice) forceRotate s
          distribution t.toGroupTrail ∧
        (created = false → t.toGroupTrail = s.toGroupTrail) ∧
        (created = true → distribution.keyId = s.rng.keyIds.head)) ∨
      ((∃ e, result = .error e) ∧ t.toGroupTrail = s.toGroupTrail)) := by
  unfold ensureLocalSenderKeyRecord manager at h
  rw [exec_read_bind] at h
  dsimp only at h
  generalize s.manager.localSenderKeyId record.groupId localDevice = id at h ⊢
  generalize hopen : exec (openLocalSenderKeyRecord id) s = outcome at h
  obtain ⟨opened, mid⟩ := outcome
  obtain ⟨hsessions, hkeyIds, ⟨isNew, senderRecord, rfl, hopened, hnew⟩ | ⟨⟨e, rfl⟩, htrail⟩⟩ :=
    openLocalSenderKeyRecord_cases hopen
  case inr =>
    rw [exec_bind_error hopen] at h
    cases h
    exact ⟨hsessions, Or.inr ⟨⟨e, rfl⟩, htrail⟩⟩
  rw [exec_bind_ok hopen] at h
  have hrotate := exec_rotateIfNeeded hopened.get? now forceRotate
  split at hrotate
  · rw [exec_bind_ok hrotate, exec_bind_ok (exec_senderRecordAt
      (SortedMap.get?_insert_self _ _ _))] at h
    have hlatest : exec (latestState (senderRecord.startChain mid.rng.keyIds.head
        mid.rng.chainKeys.head)) (withNewChain id senderRecord mid) =
        (.ok (mid.rng.keyIds.head, SenderKeyState.new mid.rng.keyIds.head
          mid.rng.chainKeys.head 0), withNewChain id senderRecord mid) := by
      unfold latestState okOr SenderKeyRecord.startChain
      rw [exec_ofExcept_bind]
      dsimp only [Option.elim]
      rw [exec_ofExcept_bind, SortedMap.get?_insert_self]
      rfl
    rw [exec_bind_ok hlatest] at h
    simp only [Option.isSome_some, Bool.or_true, if_true] at h
    cases h
    refine ⟨hsessions, Or.inl ⟨_, _, rfl, ?_, (fun heq => by cases heq),
      fun _ => congrArg Stream'.head hkeyIds⟩⟩
    have hmanager : ∀ next : SenderKeyRecord K,
        ((withNewChain id senderRecord mid).manager.setSenderKey id next) =
          mid.manager.setSenderKey id next :=
      fun next => GroupManager.setSenderKey_setSenderKey _ _ _ _
    change Ensured now id forceRotate s _
      ⟨(withNewChain id senderRecord mid).manager.setSenderKey id _, _⟩
    rw [hmanager]
    exact Ensured.rotated hopened
  · rename_i hsettled
    simp only [Bool.or_eq_true, not_or, Bool.not_eq_true] at hsettled
    have hold : isNew = false := by
      cases isNew with
      | false => rfl
      | true => simp [hnew rfl] at hsettled
    subst hold
    have hstored := hopened.stored_of_latest hsettled.2
    rw [exec_bind_ok hrotate, exec_bind_ok (exec_senderRecordAt hopened.get?)] at h
    generalize hstate : exec (latestState senderRecord) mid = outcome at h
    obtain ⟨latest, mid'⟩ := outcome
    obtain ⟨rfl, hlatest⟩ := latestState_cases hstate
    cases latest with
    | error e =>
        rw [exec_bind_error hstate] at h
        cases h
        exact ⟨hsessions, Or.inr ⟨⟨e, rfl⟩, hstored.2⟩⟩
    | ok pair =>
        obtain ⟨keyId, state⟩ := pair
        obtain ⟨hkey, hget⟩ := hlatest keyId state rfl
        rw [exec_bind_ok hstate] at h
        cases h
        refine ⟨hsessions, Or.inl ⟨_, _, rfl, ?_, fun _ => hstored.2, fun heq => by cases heq⟩⟩
        rw [hstored.2]
        exact Ensured.kept hsettled.1 hstored.1 hkey hget

theorem Ensured.effects {now : UnixSeconds} {groupId : String} {forceRotate : Bool}
    {s : GroupWorld K T} {distribution : SenderKeyDistribution K} {trail : GroupTrail K T}
    (h : Ensured now (s.manager.localSenderKeyId groupId s.sessions.localDevicePubkey)
      forceRotate s distribution trail) :
    Relation.ReflTransGen
      (GroupEffect s.sessions.localOwnerPubkey s.sessions.localDevicePubkey)
      s.toGroupTrail trail := by
  cases h with
  | kept hforce hrecord hlatest hstate => exact Relation.ReflTransGen.refl
  | @rotated record opened keyId chainKey hopened =>
      have hopen : Relation.ReflTransGen
          (GroupEffect s.sessions.localOwnerPubkey s.sessions.localDevicePubkey)
          s.toGroupTrail opened ∧ opened.manager.localOwnerPubkey = s.manager.localOwnerPubkey := by
        cases hopened with
        | stored hrecord => exact ⟨Relation.ReflTransGen.refl, rfl⟩
        | made habsent hpubkey =>
            exact ⟨Relation.ReflTransGen.single
              (GroupEffect.created s.toGroupTrail groupId _ _ habsent), rfl⟩
      have hid : s.manager.localSenderKeyId groupId s.sessions.localDevicePubkey =
          opened.localId groupId s.sessions.localDevicePubkey := by
        rw [GroupTrail.localId, GroupManager.localSenderKeyId, GroupManager.localSenderKeyId,
          hopen.2]
      have hget := hopened.get?
      rw [hid] at hget ⊢
      exact hopen.1.tail (GroupEffect.started opened groupId record
        ⟨_, keyId, record.senderEventPubkey, chainKey, 0, now⟩ hget)

theorem Ensured.groupId {now : UnixSeconds} {id : SenderKeyRecordId K} {forceRotate : Bool}
    {s : GroupWorld K T} {distribution : SenderKeyDistribution K} {trail : GroupTrail K T}
    (h : Ensured now id forceRotate s distribution trail) :
    distribution.groupId = id.groupId := by
  cases h with
  | kept hforce hrecord hlatest hstate => rfl
  | rotated hopened => rfl

theorem Ensured.localOwnerPubkey {now : UnixSeconds} {id : SenderKeyRecordId K}
    {forceRotate : Bool} {s : GroupWorld K T} {distribution : SenderKeyDistribution K}
    {trail : GroupTrail K T} (h : Ensured now id forceRotate s distribution trail) :
    trail.manager.localOwnerPubkey = s.manager.localOwnerPubkey := by
  cases h with
  | kept hforce hrecord hlatest hstate => rfl
  | rotated hopened =>
      cases hopened with
      | stored hrecord => rfl
      | made habsent hpubkey => rfl

theorem Ensured.states {now : UnixSeconds} {id : SenderKeyRecordId K} {forceRotate : Bool}
    {s : GroupWorld K T} {distribution : SenderKeyDistribution K} {trail : GroupTrail K T}
    (h : Ensured now id forceRotate s distribution trail) :
    ∃ record state, trail.manager.senderKeys.get? id = some record ∧
      record.states.get? distribution.keyId = some state ∧
      distribution.iteration = state.iteration := by
  cases h with
  | kept hforce hrecord hlatest hstate => exact ⟨_, _, hrecord, hstate, rfl⟩
  | rotated hopened =>
      exact ⟨_, _, SortedMap.get?_insert_self _ _ _, SortedMap.get?_insert_self _ _ _, rfl⟩

variable [InvitePrimitives K T] [GroupPayloadCodec K T]

/-- A distribution that was fanned out is recorded; a failed one leaves no trace. -/
theorem fanoutSenderKeyDistribution_cases {now : UnixSeconds}
    {recipients : List (OwnerPubkey K)} {distribution : SenderKeyDistribution K}
    {s t : GroupWorld K T} {result : Except Error (GroupPreparedPublish K T)}
    (h : exec (fanoutSenderKeyDistribution now recipients distribution) s = (result, t)) :
    s.sessions.SameOutside t.sessions ∧
      ((∃ prepared, result = .ok prepared ∧
        t.toGroupTrail =
          (s.toGroupTrail.address recipients (.senderKeyDistribution distribution)).onManager
            fun manager => (manager.recordSenderKeyRepairSnapshot distribution.groupId
              s.sessions.localDevicePubkey distribution
              recipients).markSenderKeyDistributionRecipients distribution.groupId
                s.sessions.localDevicePubkey distribution.keyId recipients) ∨
      ((∃ e, result = .error e) ∧ t.toGroupTrail = s.toGroupTrail)) := by
  unfold fanoutSenderKeyDistribution at h
  generalize hrun : exec (fanoutPayload now recipients (.senderKeyDistribution distribution)) s =
    outcome at h
  obtain ⟨sent, mid⟩ := outcome
  obtain ⟨prepared, rfl, hpublished⟩ | ⟨⟨e, rfl⟩, hpublished⟩ := fanoutPayload_published hrun
  · rw [exec_bind_ok hrun] at h
    cases h
    refine ⟨hpublished.sessions, Or.inl ⟨prepared, rfl, ?_⟩⟩
    have hmanager := hpublished.manager
    have hlog := hpublished.log
    have hdevice := hpublished.sessions.localDevicePubkey
    rw [← hdevice]
    obtain ⟨⟨manager, log⟩, sessions, rng⟩ := mid
    cases hmanager
    cases hlog
    rfl
  · rw [exec_bind_error hrun] at h
    cases h
    refine ⟨hpublished.sessions, Or.inr ⟨⟨e, rfl⟩, ?_⟩⟩
    rw [hpublished.trail, List.append_nil]

theorem fanoutSenderKeyDistribution_reaches {now : UnixSeconds}
    {recipients : List (OwnerPubkey K)} {distribution : SenderKeyDistribution K}
    {s : GroupWorld K T}
    (hcurrent : s.toGroupTrail.Current s.sessions.localDevicePubkey distribution) :
    s.Reaches (exec (fanoutSenderKeyDistribution now recipients distribution) s).2 := by
  generalize hrun : exec (fanoutSenderKeyDistribution now recipients distribution) s = outcome
  obtain ⟨result, t⟩ := outcome
  obtain ⟨hsessions, ⟨prepared, -, htrail⟩ | ⟨-, htrail⟩⟩ :=
    fanoutSenderKeyDistribution_cases hrun
  · refine GroupWorld.Reaches.of_effect hsessions ?_
    rw [htrail]
    exact GroupEffect.distributed s.toGroupTrail recipients distribution hcurrent
  · exact GroupWorld.Reaches.of_trail_eq hsessions htrail

theorem local_localSiblingSenderKeyDistribution (now : UnixSeconds)
    (distribution : SenderKeyDistribution K) :
    Local (localSiblingSenderKeyDistribution (T := T) now distribution) := by
  unfold localSiblingSenderKeyDistribution
  refine Local.bind (local_localSiblingPayload now _) fun prepared => ?_
  intro s
  unfold localDevicePubkey updateManager
  rw [exec_read_bind, exec_update_bind]
  split
  · exact GroupWorld.Reaches.of_effect (SessionManager.SameOutside.refl _)
      (GroupEffect.remembered s.toGroupTrail distribution)
  · exact GroupWorld.Reaches.refl s

omit [InvitePrimitives K T] in
/-- The chain a message was encrypted on, and the trail after the chain moved on. -/
inductive Advanced (now : UnixSeconds) (group : GroupRecord K) (id : SenderKeyRecordId K)
    (body : T) (s : GroupWorld K T) :
    SenderKeyRecord K → SenderKeyEncryptPlan K T → GroupTrail K T → Prop
  | mk {record : SenderKeyRecord K} {keyId : Nat} {state : SenderKeyState K}
      {plaintext : T} {nonce : K} {plan : SenderKeyEncryptPlan K T}
      (hrecord : s.manager.senderKeys.get? id = some record)
      (hlatest : record.latestKeyId = some keyId)
      (hstate : record.states.get? keyId = some state)
      (hplaintext : GroupPayloadCodec.encodeSenderKeyPlaintext
        ⟨s.sessions.localDevicePubkey, now⟩ ⟨group.groupId, group.revision, body⟩ = .ok plaintext)
      (hplan : state.planEncrypt nonce plaintext = .ok plan) :
      Advanced now group id body s record plan (s.toGroupTrail.onManager
        (·.setSenderKey id { record with
          states := record.states.insert keyId plan.nextState }))

omit [InvitePrimitives K T] in
/-- A message is emitted on the latest chain. The only failure that moves the chain is a
missing sender-event secret. -/
theorem emitSenderKeyMessage_cases {now : UnixSeconds} {group : GroupRecord K}
    {localDevice : DevicePubkey K} {body : T} {s t : GroupWorld K T}
    {result : Except Error (GroupSenderKeyMessageEnvelope K T)}
    (h : exec (emitSenderKeyMessage now group localDevice body) s = (result, t)) :
    t.sessions = s.sessions ∧
      ((∃ message record plan secret, result = .ok message ∧
        Advanced now group (s.manager.localSenderKeyId group.groupId localDevice) body s record
          plan t.toGroupTrail ∧
        record.senderEventSecretKey = some secret ∧ record.latestKeyId = some message.keyId ∧
        message.groupId = group.groupId ∧
        message.senderEventPubkey = record.senderEventPubkey ∧
        message.messageNumber = plan.messageNumber ∧ message.ciphertext = plan.ciphertext) ∨
      (∃ e, result = .error e) ∧
        (t.toGroupTrail = s.toGroupTrail ∨
          ∃ record plan, record.senderEventSecretKey = none ∧
            Advanced now group (s.manager.localSenderKeyId group.groupId localDevice) body s
              record plan t.toGroupTrail)) := by
  unfold emitSenderKeyMessage manager at h
  rw [exec_read_bind] at h
  dsimp only at h
  generalize s.manager.localSenderKeyId group.groupId localDevice = id at h ⊢
  cases hrecord : s.manager.senderKeys.get? id with
  | none =>
      have hfail : exec (senderRecordAt id) s =
          (.error (groupError "missing local sender-key record"), s) := by
        unfold senderRecordAt manager okOr
        rw [exec_read_bind, hrecord]
        rfl
      rw [exec_bind_error hfail] at h
      cases h
      exact ⟨rfl, Or.inr ⟨⟨_, rfl⟩, Or.inl rfl⟩⟩
  | some record =>
      rw [exec_bind_ok (exec_senderRecordAt hrecord)] at h
      generalize hlatest : exec (latestState record) s = outcome at h
      obtain ⟨latest, mid⟩ := outcome
      obtain ⟨rfl, hread⟩ := latestState_cases hlatest
      cases latest with
      | error e =>
          rw [exec_bind_error hlatest] at h
          cases h
          exact ⟨rfl, Or.inr ⟨⟨_, rfl⟩, Or.inl rfl⟩⟩
      | ok pair =>
          obtain ⟨keyId, state⟩ := pair
          obtain ⟨hkey, hstate⟩ := hread keyId state rfl
          rw [exec_bind_ok hlatest] at h
          dsimp only [encodeContext] at h
          rw [exec_read_bind, exec_ofExcept_bind] at h
          split at h
          · cases h
            exact ⟨rfl, Or.inr ⟨⟨_, rfl⟩, Or.inl rfl⟩⟩
          rename_i plaintext hplaintext
          have hdraw : exec (draw randomNonce) mid = (.ok mid.rng.nonces.head, { mid with
              rng := { mid.rng with nonces := mid.rng.nonces.tail } }) := rfl
          rw [exec_bind_ok hdraw, exec_ofExcept_bind] at h
          split at h
          · cases h
            exact ⟨rfl, Or.inr ⟨⟨_, rfl⟩, Or.inl rfl⟩⟩
          rename_i plan hplan
          have hadvanced : Advanced now group id body mid record plan _ :=
            Advanced.mk hrecord hkey hstate hplaintext hplan
          unfold updateManager okOr at h
          rw [exec_update_bind, exec_ofExcept_bind] at h
          cases hsecret : record.senderEventSecretKey with
          | none =>
              rw [hsecret] at h hadvanced
              cases h
              exact ⟨rfl, Or.inr ⟨⟨_, rfl⟩, Or.inr ⟨record, plan, hsecret, hadvanced⟩⟩⟩
          | some secret =>
              rw [hsecret] at h hadvanced
              cases h
              exact ⟨rfl, Or.inl ⟨_, record, plan, secret, rfl, hadvanced, hsecret, hkey, rfl,
                rfl, rfl, rfl⟩⟩

omit [InvitePrimitives K T] in
theorem Advanced.effect {now : UnixSeconds} {group : GroupRecord K} {body : T}
    {s : GroupWorld K T} {record : SenderKeyRecord K} {plan : SenderKeyEncryptPlan K T}
    {trail : GroupTrail K T}
    (h : Advanced now group
      (s.manager.localSenderKeyId group.groupId s.sessions.localDevicePubkey) body s record plan
      trail) :
    GroupEffect s.sessions.localOwnerPubkey s.sessions.localDevicePubkey s.toGroupTrail trail := by
  cases h with
  | mk hrecord hlatest hstate hplaintext hplan =>
      have hplanned := (SenderKeyState.planEncrypt_eq_ok hplan).2.2.2.2
      refine GroupEffect.emitted s.toGroupTrail group.groupId record _ _ _ hrecord hlatest hstate
        ?_ ?_
      · rw [hplanned]
      · rw [hplanned]
        exact Nat.le_succ _

omit [InvitePrimitives K T] in
theorem emitSenderKeyMessage_reaches (now : UnixSeconds) (group : GroupRecord K) (body : T)
    (s : GroupWorld K T) :
    s.Reaches (exec (emitSenderKeyMessage now group s.sessions.localDevicePubkey body) s).2 := by
  generalize hrun : exec (emitSenderKeyMessage now group s.sessions.localDevicePubkey body) s =
    outcome
  obtain ⟨result, t⟩ := outcome
  obtain ⟨hsessions, h⟩ := emitSenderKeyMessage_cases hrun
  have hsame : s.sessions.SameOutside t.sessions := by
    rw [hsessions]
    exact SessionManager.SameOutside.refl _
  obtain ⟨message, record, plan, secret, -, hadvanced, -⟩ | ⟨-, htrail | ⟨record, plan, -,
    hadvanced⟩⟩ := h
  · exact GroupWorld.Reaches.of_effect hsame hadvanced.effect
  · exact GroupWorld.Reaches.of_trail_eq hsame htrail
  · exact GroupWorld.Reaches.of_effect hsame hadvanced.effect

omit [InvitePrimitives K T] [GroupPayloadCodec K T] in
theorem ensureLocalSenderKeyRecord_reaches (now : UnixSeconds) (group : GroupRecord K)
    (forceRotate : Bool) (s : GroupWorld K T) :
    s.Reaches (exec (ensureLocalSenderKeyRecord now group s.sessions.localDevicePubkey
      forceRotate) s).2 := by
  generalize hrun : exec (ensureLocalSenderKeyRecord now group s.sessions.localDevicePubkey
    forceRotate) s = outcome
  obtain ⟨result, t⟩ := outcome
  obtain ⟨hsessions, h⟩ := ensureLocalSenderKeyRecord_cases hrun
  have hsame : s.sessions.SameOutside t.sessions := by
    rw [hsessions]
    exact SessionManager.SameOutside.refl _
  obtain ⟨distribution, created, -, hensured, -⟩ | ⟨-, htrail⟩ := h
  · exact ⟨hsame, hensured.effects⟩
  · exact GroupWorld.Reaches.of_trail_eq hsame htrail

omit [InvitePrimitives K T] [GroupPayloadCodec K T] in
/-- After a successful `ensure_local_sender_key_record` the distribution states where its
chain stands. -/
theorem Ensured.current {now : UnixSeconds} {group : GroupRecord K} {forceRotate : Bool}
    {s t : GroupWorld K T} {distribution : SenderKeyDistribution K}
    (hreach : s.Reaches t)
    (h : Ensured now (s.manager.localSenderKeyId group.groupId s.sessions.localDevicePubkey)
      forceRotate s distribution t.toGroupTrail) :
    t.toGroupTrail.Current t.sessions.localDevicePubkey distribution := by
  have hid : t.toGroupTrail.localId distribution.groupId t.sessions.localDevicePubkey =
      s.manager.localSenderKeyId group.groupId s.sessions.localDevicePubkey := by
    rw [GroupTrail.localId, GroupManager.localSenderKeyId, GroupManager.localSenderKeyId,
      hreach.frame.localOwnerPubkey, hreach.sessions.localDevicePubkey, h.groupId]
    rfl
  rw [GroupTrail.Current, hid]
  exact h.states

variable [DecidableEq T]

theorem local_prepareSenderKey (now : UnixSeconds) (group : GroupRecord K) (forceRotate : Bool)
    (prepared : GroupPreparedSend K T) :
    Local (prepareSenderKey now group forceRotate prepared) := by
  intro s
  unfold prepareSenderKey localDevicePubkey manager
  rw [exec_read_bind]
  have hensure := ensureLocalSenderKeyRecord_reaches now group forceRotate s
  refine Moves.bind_at (fun _ _ _ hst htu => hst.trans htu) hensure ?_
  rintro ⟨distribution, created⟩ t hrun
  rw [hrun] at hensure
  obtain ⟨-, ⟨_, _, heq, hensured, -⟩ | ⟨⟨e, heq⟩, -⟩⟩ := ensureLocalSenderKeyRecord_cases hrun
  · cases heq
    rw [exec_read_bind]
    refine Moves.bind_at (fun _ _ _ hst htu => hst.trans htu)
      (fanoutSenderKeyDistribution_reaches (hensured.current hensure)) fun remote u _ => ?_
    exact (local_localSiblingSenderKeyDistribution now distribution).bind
      (fun _ => Local.pure _) u
  · cases heq

theorem local_sendSenderKeyMessage (now : UnixSeconds) (group : GroupRecord K) (body : T) :
    Local (sendSenderKeyMessage now group body) := by
  intro s
  unfold sendSenderKeyMessage localDevicePubkey manager
  refine Moves.bind_at (fun _ _ _ hst htu => hst.trans htu) (local_localSiblingPayload now _ s)
    fun localSibling s₁ _ => ?_
  rw [exec_read_bind, exec_read_bind]
  have hensure := ensureLocalSenderKeyRecord_reaches now group
    (s₁.manager.localSenderKeyHasRemovedRecipients group s₁.sessions.localDevicePubkey) s₁
  refine Moves.bind_at (fun _ _ _ hst htu => hst.trans htu) hensure ?_
  rintro ⟨distribution, created⟩ s₂ hrun
  rw [hrun] at hensure
  obtain ⟨hsessions, ⟨_, _, heq, hensured, -⟩ | ⟨⟨e, heq⟩, -⟩⟩ :=
    ensureLocalSenderKeyRecord_cases hrun
  · cases heq
    rw [exec_read_bind]
    have hdistribute : s₂.Reaches (exec (distributeMissing now
        (s₂.manager.senderKeyDistributionRecipients group s₁.sessions.localDevicePubkey
          distribution.keyId (group.remoteMembers s₂.manager.localOwnerPubkey))
        distribution) s₂).2 := by
      unfold distributeMissing
      split
      · exact GroupWorld.Reaches.refl s₂
      · exact fanoutSenderKeyDistribution_reaches (hensured.current hensure)
    refine Moves.bind_at (fun _ _ _ hst htu => hst.trans htu) hdistribute fun remote s₃ hrun₃ => ?_
    rw [hrun₃] at hdistribute
    have hsibling := local_localSiblingSenderKeyDistribution now distribution s₃
    refine Moves.bind_at (fun _ _ _ hst htu => hst.trans htu) hsibling fun sibling s₄ hrun₄ => ?_
    rw [hrun₄] at hsibling
    have hdevice : s₁.sessions.localDevicePubkey = s₄.sessions.localDevicePubkey := by
      rw [hsibling.sessions.localDevicePubkey, hdistribute.sessions.localDevicePubkey, hsessions]
    rw [hdevice]
    refine Moves.bind_at (fun _ _ _ hst htu => hst.trans htu)
      (emitSenderKeyMessage_reaches now group body s₄) fun message s₅ _ => ?_
    rw [exec_read_bind]
    exact GroupWorld.Reaches.refl s₅
  · cases heq

end SenderKeys

end GroupM

end NostrDoubleRatchet
