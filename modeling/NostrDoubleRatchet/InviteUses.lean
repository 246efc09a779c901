import NostrDoubleRatchet.Symbolic
import Mathlib.Data.List.Sort

/-!
What an invite knows about its uses. A response that is accepted is entered under its device and
its content; the devices stay sorted and within the limit, and a content is accepted once.
-/

namespace NostrDoubleRatchet

set_option linter.unusedSectionVars false

variable {K T : Type} [LinearOrder K] [DecidableEq T] [Primitives K T] [InvitePrimitives K T]

namespace Invite

/-- The invite that knows a response. -/
def answeredBy (invite : Invite K T) (invitee : DevicePubkey K) (content : T) : Invite K T :=
  (invite.recordUse invitee).recordResponseContent content

section

omit [Primitives K T]

theorem recordUse_rest (invite : Invite K T) (invitee : DevicePubkey K) :
    invite.recordUse invitee =
      { invite with usedBy := (invite.recordUse invitee).usedBy } := by
  unfold recordUse
  split
  · rfl
  · rfl

theorem recordResponseContent_rest (invite : Invite K T) (content : T) :
    invite.recordResponseContent content = { invite with
      usedResponseContents := (invite.recordResponseContent content).usedResponseContents } := by
  unfold recordResponseContent
  split
  · rfl
  · rfl

/-- A response changes only what the invite knows about its uses. -/
theorem answeredBy_rest (invite : Invite K T) (invitee : DevicePubkey K) (content : T) :
    invite.answeredBy invitee content = { invite with
      usedBy := (invite.answeredBy invitee content).usedBy
      usedResponseContents := (invite.answeredBy invitee content).usedResponseContents } := by
  unfold answeredBy
  rw [recordResponseContent_rest, recordUse_rest]

theorem usedBy_answeredBy (invite : Invite K T) (invitee : DevicePubkey K) (content : T) :
    (invite.answeredBy invitee content).usedBy = (invite.recordUse invitee).usedBy := by
  unfold answeredBy
  rw [recordResponseContent_rest]

theorem usedResponseContents_answeredBy (invite : Invite K T) (invitee : DevicePubkey K)
    (content : T) : (invite.answeredBy invitee content).usedResponseContents =
      (invite.recordResponseContent content).usedResponseContents := by
  unfold answeredBy recordResponseContent
  rw [recordUse_rest]
  split
  · rfl
  · rfl

theorem mem_usedBy_recordUse {invite : Invite K T} {invitee device : DevicePubkey K} :
    device ∈ (invite.recordUse invitee).usedBy ↔ device ∈ invite.usedBy ∨ device = invitee := by
  unfold recordUse
  split
  · rename_i hmem
    constructor
    · exact Or.inl
    · rintro (h | rfl)
      · exact h
      · exact hmem
  · rw [List.mem_mergeSort, List.mem_append, List.mem_singleton]

theorem mem_usedResponseContents_record {invite : Invite K T} {content other : T} :
    other ∈ (invite.recordResponseContent content).usedResponseContents ↔
      other ∈ invite.usedResponseContents ∨ other = content := by
  unfold recordResponseContent
  split
  · rename_i hmem
    constructor
    · exact Or.inl
    · rintro (h | rfl)
      · exact h
      · exact hmem
  · rw [List.mem_mergeSort, List.mem_append, List.mem_singleton]

/-- The devices stay sorted, and none comes in twice. -/
theorem sorted_recordUse {invite : Invite K T} (invitee : DevicePubkey K)
    (h : invite.usedBy.Pairwise (· < ·)) :
    (invite.recordUse invitee).usedBy.Pairwise (· < ·) := by
  unfold recordUse
  split
  · exact h
  · rename_i hnew
    have hnodup : (invite.usedBy ++ [invitee]).Nodup := by
      refine List.nodup_append.mpr ⟨h.imp (fun hlt => hlt.ne), List.nodup_singleton _, ?_⟩
      intro a ha b hb
      rw [List.mem_singleton.mp hb]
      rintro rfl
      exact hnew ha
    have hsorted : ((invite.usedBy ++ [invitee]).mergeSort (fun a b => a ≤ b)).Pairwise
        (· ≤ ·) := by
      have hsort := @List.pairwise_mergeSort _ (fun a b : DevicePubkey K => decide (a ≤ b))
        (fun a b c hab hbc => by
          rw [decide_eq_true_eq] at *
          exact hab.trans hbc)
        (fun a b => by
          rw [Bool.or_eq_true, decide_eq_true_eq, decide_eq_true_eq]
          exact le_total a b) (invite.usedBy ++ [invitee])
      exact hsort.imp (fun hab => of_decide_eq_true hab)
    have hne : ((invite.usedBy ++ [invitee]).mergeSort (fun a b => a ≤ b)).Nodup :=
      (List.mergeSort_perm _ _).nodup_iff.mpr hnodup
    exact hsorted.imp₂ (fun a b hle hne => lt_of_le_of_ne hle hne) hne

/-- A use that is allowed stays within the limit. -/
theorem length_recordUse {invite : Invite K T} {invitee : DevicePubkey K} {limit : Nat}
    (hlimit : invite.maxUses = some limit) (hlength : invite.usedBy.length ≤ limit)
    (hallowed : invite.ensureAcceptAllowed invitee = .ok ()) :
    (invite.recordUse invitee).usedBy.length ≤ limit := by
  unfold recordUse
  unfold ensureAcceptAllowed at hallowed
  split
  · exact hlength
  · rename_i hnew
    rw [if_neg hnew, hlimit] at hallowed
    have hroom : ¬ invite.usedBy.length ≥ limit := by
      intro hfull
      rw [if_pos (by simpa using hfull)] at hallowed
      cases hallowed
    rw [List.length_mergeSort, List.length_append, List.length_singleton]
    omega

end

theorem processResponse_ok {invite invite' : Invite K T} {envelope : InviteResponseEnvelope K T}
    {secret : K} {response : InviteResponse K} {rng rng' : Rng K}
    (h : invite.processResponse envelope secret rng = (.ok (response, invite'), rng')) :
    envelope.content ∉ invite.usedResponseContents ∧
    invite.ensureAcceptAllowed response.inviteeDevicePubkey = .ok () ∧
    response.inviteeDevicePubkey.bytes = response.inviteeIdentity ∧
    invite' = invite.answeredBy response.inviteeDevicePubkey envelope.content ∧
    ∃ sessionKey ephemeral before after,
      invite.inviterEphemeralPrivateKey = some ephemeral ∧
      Session.newResponder sessionKey ephemeral invite.sharedSecret before =
        (.ok response.session, after) := by
  unfold processResponse at h
  split at h
  · cases h
  cases hephemeral : invite.inviterEphemeralPrivateKey with
  | none =>
      rw [hephemeral] at h
      cases h
  | some ephemeral =>
  rw [hephemeral] at h
  obtain ⟨ephemeralSk, r1, -, h1⟩ := RandM.bind_eq_ok.mp h
  obtain ⟨senderKey, r2, -, h2⟩ := RandM.bind_eq_ok.mp h1
  obtain ⟨decrypted, r3, -, h3⟩ := RandM.bind_eq_ok.mp h2
  obtain ⟨inner, r4, -, h4⟩ := RandM.bind_eq_ok.mp h3
  obtain ⟨⟨⟩, r5, -, h5⟩ := RandM.bind_eq_ok.mp h4
  obtain ⟨ciphertextBytes, r6, -, h6⟩ := RandM.bind_eq_ok.mp h5
  obtain ⟨dhBytes, r7, -, h7⟩ := RandM.bind_eq_ok.mp h6
  obtain ⟨dhCiphertext, r8, -, h8⟩ := RandM.bind_eq_ok.mp h7
  obtain ⟨inviterSk, r9, -, h9⟩ := RandM.bind_eq_ok.mp h8
  obtain ⟨dhDecrypted, r10, -, h10⟩ := RandM.bind_eq_ok.mp h9
  obtain ⟨payload, r11, -, h11⟩ := RandM.bind_eq_ok.mp h10
  split at h11
  · cases h11
  rename_i hnew
  obtain ⟨ownerPublicKey, r12, -, h12⟩ := RandM.bind_eq_ok.mp h11
  obtain ⟨⟨⟩, r13, hallowed, h13⟩ := RandM.bind_eq_ok.mp h12
  obtain ⟨hallowed, -⟩ := RandM.lift_eq_ok.mp hallowed
  obtain ⟨sessionPublicKey, r14, -, h14⟩ := RandM.bind_eq_ok.mp h13
  split at h14
  · cases h14
  split at h14
  · cases h14
  obtain ⟨session, r15, hsession, h15⟩ := RandM.bind_eq_ok.mp h14
  cases h15
  exact ⟨hnew, hallowed, rfl, rfl, payload.sessionKey, ephemeral, r14, _, rfl, hsession⟩

/-- What an invite has recorded matters for the two checks on it only. -/
theorem processResponse_of_allowed {invite invite' : Invite K T}
    {envelope : InviteResponseEnvelope K T} {secret : K} {response : InviteResponse K}
    {rng rng' : Rng K}
    (h : invite.processResponse envelope secret rng = (.ok (response, invite'), rng'))
    {usedBy : List (DevicePubkey K)} {contents : List T} (hnew : envelope.content ∉ contents)
    (hallowed : Invite.ensureAcceptAllowed
      { invite with usedBy := usedBy, usedResponseContents := contents }
      response.inviteeDevicePubkey = .ok ()) :
    Invite.processResponse { invite with usedBy := usedBy, usedResponseContents := contents }
      envelope secret rng = (.ok (response, Invite.answeredBy
        { invite with usedBy := usedBy, usedResponseContents := contents }
        response.inviteeDevicePubkey envelope.content), rng') := by
  unfold processResponse at h ⊢
  split at h
  · cases h
  rename_i hversion
  rw [if_neg hversion]
  cases hephemeral : invite.inviterEphemeralPrivateKey with
  | none =>
      rw [hephemeral] at h
      cases h
  | some ephemeral =>
  rw [hephemeral] at h
  obtain ⟨ephemeralSk, r1, e1, h1⟩ := RandM.bind_eq_ok.mp h
  refine RandM.bind_eq_ok.mpr ⟨ephemeralSk, r1, e1, ?_⟩
  obtain ⟨senderKey, r2, e2, h2⟩ := RandM.bind_eq_ok.mp h1
  refine RandM.bind_eq_ok.mpr ⟨senderKey, r2, e2, ?_⟩
  obtain ⟨decrypted, r3, e3, h3⟩ := RandM.bind_eq_ok.mp h2
  refine RandM.bind_eq_ok.mpr ⟨decrypted, r3, e3, ?_⟩
  obtain ⟨inner, r4, e4, h4⟩ := RandM.bind_eq_ok.mp h3
  refine RandM.bind_eq_ok.mpr ⟨inner, r4, e4, ?_⟩
  obtain ⟨⟨⟩, r5, e5, h5⟩ := RandM.bind_eq_ok.mp h4
  refine RandM.bind_eq_ok.mpr ⟨(), r5, e5, ?_⟩
  obtain ⟨ciphertextBytes, r6, e6, h6⟩ := RandM.bind_eq_ok.mp h5
  refine RandM.bind_eq_ok.mpr ⟨ciphertextBytes, r6, e6, ?_⟩
  obtain ⟨dhBytes, r7, e7, h7⟩ := RandM.bind_eq_ok.mp h6
  refine RandM.bind_eq_ok.mpr ⟨dhBytes, r7, e7, ?_⟩
  obtain ⟨dhCiphertext, r8, e8, h8⟩ := RandM.bind_eq_ok.mp h7
  refine RandM.bind_eq_ok.mpr ⟨dhCiphertext, r8, e8, ?_⟩
  obtain ⟨inviterSk, r9, e9, h9⟩ := RandM.bind_eq_ok.mp h8
  refine RandM.bind_eq_ok.mpr ⟨inviterSk, r9, e9, ?_⟩
  obtain ⟨dhDecrypted, r10, e10, h10⟩ := RandM.bind_eq_ok.mp h9
  refine RandM.bind_eq_ok.mpr ⟨dhDecrypted, r10, e10, ?_⟩
  obtain ⟨payload, r11, e11, h11⟩ := RandM.bind_eq_ok.mp h10
  refine RandM.bind_eq_ok.mpr ⟨payload, r11, e11, ?_⟩
  split at h11
  · cases h11
  rw [if_neg hnew]
  obtain ⟨ownerPublicKey, r12, e12, h12⟩ := RandM.bind_eq_ok.mp h11
  refine RandM.bind_eq_ok.mpr ⟨ownerPublicKey, r12, e12, ?_⟩
  obtain ⟨⟨⟩, r13, hbefore, h13⟩ := RandM.bind_eq_ok.mp h12
  obtain ⟨-, rfl⟩ := RandM.lift_eq_ok.mp hbefore
  obtain ⟨sessionPublicKey, r14, e14, h14⟩ := RandM.bind_eq_ok.mp h13
  split at h14
  · cases h14
  rename_i hvalid
  split at h14
  · cases h14
  rename_i hproof
  obtain ⟨session, r15, hsession, h15⟩ := RandM.bind_eq_ok.mp h14
  cases h15
  refine RandM.bind_eq_ok.mpr ⟨(), _, RandM.lift_eq_ok.mpr ⟨hallowed, rfl⟩, ?_⟩
  refine RandM.bind_eq_ok.mpr ⟨sessionPublicKey, r14, e14, ?_⟩
  rw [if_neg hvalid, if_neg hproof]
  exact RandM.bind_eq_ok.mpr ⟨session, _, hsession, rfl⟩

end Invite

/-- A call of `process_response`. -/
structure InviteCall (K T : Type) where
  envelope : InviteResponseEnvelope K T
  inviterPrivateKey : K
  rng : Rng K

namespace Invite

/-- What a call returns, and the invite after it. -/
def respond (invite : Invite K T) (call : InviteCall K T) :
    Except Error (InviteResponse K) × Invite K T :=
  match (invite.processResponse call.envelope call.inviterPrivateKey call.rng).1 with
  | .ok (response, invite) => (.ok response, invite)
  | .error e => (.error e, invite)

/-- The outcomes of one call after the other, and the invite after them. -/
def respondAll (invite : Invite K T) :
    List (InviteCall K T) → List (InviteCall K T × Except Error (InviteResponse K)) × Invite K T
  | [] => ([], invite)
  | call :: rest =>
      let (outcome, next) := invite.respond call
      let (outcomes, last) := next.respondAll rest
      ((call, outcome) :: outcomes, last)

/-- The content and the device of an accepted response. -/
def acceptedUse : InviteCall K T × Except Error (InviteResponse K) → Option (T × DevicePubkey K)
  | (call, .ok response) => some (call.envelope.content, response.inviteeDevicePubkey)
  | (_, .error _) => none

theorem respond_cases (invite : Invite K T) (call : InviteCall K T) :
    (∃ response, invite.respond call =
      (.ok response, invite.answeredBy response.inviteeDevicePubkey call.envelope.content) ∧
      call.envelope.content ∉ invite.usedResponseContents ∧
      invite.ensureAcceptAllowed response.inviteeDevicePubkey = .ok ()) ∨
    ∃ e, invite.respond call = (.error e, invite) := by
  unfold respond
  generalize hcall : invite.processResponse call.envelope call.inviterPrivateKey call.rng = outcome
  obtain ⟨result, rng⟩ := outcome
  cases result with
  | error e => exact Or.inr ⟨e, rfl⟩
  | ok answered =>
      obtain ⟨response, invite'⟩ := answered
      obtain ⟨hnew, hallowed, -, rfl, -⟩ := processResponse_ok hcall
      exact Or.inl ⟨response, rfl, hnew, hallowed⟩

/-- How an invite stands after the uses that were accepted since it was made. -/
structure Accounts (created invite : Invite K T) (uses : List (T × DevicePubkey K)) : Prop where
  rest : ∃ usedBy contents,
    invite = { created with usedBy := usedBy, usedResponseContents := contents }
  sorted : invite.usedBy.Pairwise (· < ·)
  limited : ∀ limit, created.maxUses = some limit → invite.usedBy.length ≤ limit
  devices : ∀ device, device ∈ invite.usedBy ↔ ∃ use ∈ uses, use.2 = device
  contents : ∀ content, content ∈ invite.usedResponseContents ↔ ∃ use ∈ uses, use.1 = content
  once : (uses.map Prod.fst).Nodup

theorem Accounts.answered {created invite : Invite K T} {uses : List (T × DevicePubkey K)}
    (h : created.Accounts invite uses) {content : T} {invitee : DevicePubkey K}
    (hnew : content ∉ invite.usedResponseContents)
    (hallowed : invite.ensureAcceptAllowed invitee = .ok ()) :
    created.Accounts (invite.answeredBy invitee content) (uses ++ [(content, invitee)]) := by
  have hmax : invite.maxUses = created.maxUses := by
    obtain ⟨usedBy, contents, rfl⟩ := h.rest
    rfl
  refine ⟨?_, ?_, ?_, ?_, ?_, ?_⟩
  · rw [answeredBy_rest]
    obtain ⟨usedBy, contents, rfl⟩ := h.rest
    exact ⟨_, _, rfl⟩
  · rw [usedBy_answeredBy]
    exact sorted_recordUse invitee h.sorted
  · intro limit hlimit
    rw [usedBy_answeredBy]
    exact length_recordUse (hmax.trans hlimit) (h.limited limit hlimit) hallowed
  · intro device
    rw [usedBy_answeredBy, mem_usedBy_recordUse, h.devices]
    simp only [List.mem_append, List.mem_singleton, or_and_right, exists_or, exists_eq_left,
      eq_comm]
  · intro other
    rw [usedResponseContents_answeredBy, mem_usedResponseContents_record, h.contents]
    simp only [List.mem_append, List.mem_singleton, or_and_right, exists_or, exists_eq_left,
      eq_comm]
  · rw [List.map_append]
    refine List.nodup_append.mpr ⟨h.once, List.nodup_singleton _, ?_⟩
    intro a ha b hb
    obtain ⟨use, huse, rfl⟩ := List.mem_map.mp ha
    rw [List.map_cons, List.map_nil, List.mem_singleton] at hb
    intro heq
    exact hnew ((h.contents content).mpr ⟨use, huse, heq.trans hb⟩)

theorem accounts_respondAll {created invite : Invite K T} {uses : List (T × DevicePubkey K)}
    (h : created.Accounts invite uses) (calls : List (InviteCall K T)) :
    created.Accounts (invite.respondAll calls).2
      (uses ++ (invite.respondAll calls).1.filterMap acceptedUse) := by
  induction calls generalizing invite uses with
  | nil =>
      rw [respondAll, List.filterMap_nil, List.append_nil]
      exact h
  | cons call rest ih =>
      rw [respondAll]
      rcases invite.respond_cases call with ⟨response, heq, hnew, hallowed⟩ | ⟨e, heq⟩
      · rw [heq]
        have hnext := ih (h.answered hnew hallowed)
        rw [List.append_assoc] at hnext
        exact hnext
      · rw [heq]
        exact ih h

theorem accounts_created {created : Invite K T} (husedBy : created.usedBy = [])
    (hcontents : created.usedResponseContents = []) : created.Accounts created [] := by
  refine ⟨⟨_, _, rfl⟩, ?_, ?_, ?_, ?_, List.nodup_nil⟩
  · rw [husedBy]
    exact List.Pairwise.nil
  · intro limit _
    rw [husedBy]
    exact Nat.zero_le limit
  · intro device
    rw [husedBy]
    simp
  · intro content
    rw [hcontents]
    simp

theorem createNewWithContext_ok {now : UnixSeconds} {inviter : DevicePubkey K}
    {owner : Option (OwnerPubkey K)} {maxUses : Option Nat} {invite : Invite K T}
    {rng rng' : Rng K}
    (h : createNewWithContext now inviter owner maxUses rng = (.ok invite, rng')) :
    invite.maxUses = maxUses ∧ invite.usedBy = [] ∧ invite.usedResponseContents = [] := by
  unfold createNewWithContext at h
  obtain ⟨privateKey, r1, -, h1⟩ := RandM.bind_eq_ok.mp h
  obtain ⟨publicKey, r2, -, h2⟩ := RandM.bind_eq_ok.mp h1
  obtain ⟨sharedSecret, r3, -, h3⟩ := RandM.bind_eq_ok.mp h2
  obtain ⟨inviterKey, r4, -, h4⟩ := RandM.bind_eq_ok.mp h3
  obtain ⟨ownerKey, r5, -, h5⟩ := RandM.bind_eq_ok.mp h4
  cases h5
  exact ⟨rfl, rfl, rfl⟩

/-- However an invite is answered, its uses are the devices whose responses it has accepted, sorted
and within the limit, and no content counts twice. A device that has used the invite is accepted
again with a content that is new, also where no use is left. A call that fails changes nothing. -/
theorem uses_accounted (now : UnixSeconds) (inviter : DevicePubkey K)
    (owner : Option (OwnerPubkey K)) (maxUses : Option Nat) (deviceId : Option String)
    (made : Invite K T) (rng rng' : Rng K)
    (hmade : createNewWithContext now inviter owner maxUses rng = (.ok made, rng'))
    (calls : List (InviteCall K T)) :
    let created : Invite K T := { made with deviceId := deviceId }
    let (outcomes, invite) := created.respondAll calls
    let uses := outcomes.filterMap acceptedUse
    invite.usedBy.Pairwise (· < ·) ∧
    (∀ limit, maxUses = some limit → invite.usedBy.length ≤ limit) ∧
    (∀ device, device ∈ invite.usedBy ↔ ∃ use ∈ uses, use.2 = device) ∧
    (uses.map Prod.fst).Nodup ∧
    (∀ call response, (created.respond call).1 = .ok response →
      response.inviteeDevicePubkey ∈ invite.usedBy →
      (∀ use ∈ uses, use.1 ≠ call.envelope.content) →
      (invite.respond call).1 = .ok response) ∧
    (∀ call e, (invite.respond call).1 = .error e → (invite.respond call).2 = invite) := by
  intro created
  obtain ⟨hmax, husedBy, hcontents⟩ := createNewWithContext_ok hmade
  have hcreated : created.Accounts created [] := accounts_created husedBy hcontents
  have haccounts := accounts_respondAll hcreated calls
  rw [List.nil_append] at haccounts
  refine ⟨haccounts.sorted, fun limit hlimit => haccounts.limited limit (hmax.trans hlimit),
    haccounts.devices, haccounts.once, ?_, ?_⟩
  · intro call response hresponse hdevice hfresh
    have hnew : call.envelope.content ∉ (created.respondAll calls).2.usedResponseContents := by
      intro hmem
      obtain ⟨use, huse, heq⟩ := (haccounts.contents _).mp hmem
      exact hfresh use huse heq
    have hallowed : (created.respondAll calls).2.ensureAcceptAllowed
        response.inviteeDevicePubkey = .ok () := by
      unfold ensureAcceptAllowed
      rw [if_pos hdevice]
    obtain ⟨usedBy, contents, hrest⟩ := haccounts.rest
    rw [hrest] at hnew hallowed
    change (Invite.respond (created.respondAll calls).2 call).1 = .ok response
    rw [hrest]
    unfold respond at hresponse ⊢
    generalize hcall : created.processResponse call.envelope call.inviterPrivateKey call.rng =
      outcome at hresponse
    obtain ⟨result, rng''⟩ := outcome
    cases result with
    | error e => cases hresponse
    | ok answered =>
        obtain ⟨accepted, invite'⟩ := answered
        cases hresponse
        rw [processResponse_of_allowed hcall hnew hallowed]
  · intro call e herror
    rcases (created.respondAll calls).2.respond_cases call with
      ⟨response, heq, -, -⟩ | ⟨e', heq⟩
    · change ((created.respondAll calls).2.respond call).1 = .error e at herror
      rw [heq] at herror
      cases herror
    · rw [heq]

end Invite

/-! An invite for one device. -/

namespace Symbolic

def inviterDevice : DevicePubkey KeyTerm := ⟨.point (.secret 1)⟩

def inviteeDevice : DevicePubkey KeyTerm := ⟨.point (.secret 2)⟩

/-- Fresh secrets from a base on. -/
def freshFrom (base : Nat) : Rng KeyTerm where
  secretKeys n := .secret (base + n)
  words n := n
  aux n := .expandByte (.secret base) 1 n
  nonces n := .expandByte (.secret base) 2 n

def singleUseInvite : Invite KeyTerm TextTerm where
  metadataPrivacyVersion := METADATA_PRIVACY_VERSION
  inviterDevicePubkey := inviterDevice
  inviterEphemeralPublicKey := ⟨.point (.secret 10)⟩
  sharedSecret := .secret 11
  inviterEphemeralPrivateKey := some (.secret 10)
  maxUses := some 1
  usedBy := []
  usedResponseContents := []
  createdAt := 5
  inviterOwnerPubkey := none
  purpose := none
  inviter := .point (.secret 1)
  deviceId := none
  ownerPublicKey := none

theorem singleUseInvite_created : ∃ rng', Invite.createNewWithContext 5 inviterDevice none (some 1)
    (freshFrom 10) = (.ok singleUseInvite, rng') :=
  ⟨_, rfl⟩

/-- The envelope that the invitee makes with fresh secrets. -/
def responseFrom (base : Nat) (owner : Option (OwnerPubkey KeyTerm)) :
    Option (InviteResponseEnvelope KeyTerm TextTerm) :=
  match (singleUseInvite.acceptWithOwnerContext 6 inviteeDevice (.secret 2) owner
      (freshFrom base)).1 with
  | .ok (_, envelope) => some envelope
  | .error _ => none

def callsFrom (bases : List Nat) : List (InviteCall KeyTerm TextTerm) :=
  bases.filterMap (fun base => (responseFrom base none).map (fun envelope =>
    ⟨envelope, .secret 1, freshFrom 1000⟩))

/-- A response, its replay, and a second one of the same device once the only use is taken. -/
theorem uses_accounted_single :
    (singleUseInvite.respondAll (callsFrom [100, 100, 200])).1.map (fun outcome =>
      outcome.2.isOk) = [true, false, true] ∧
    (singleUseInvite.respondAll (callsFrom [100, 100, 200])).2.usedBy = [inviteeDevice] ∧
    (singleUseInvite.respondAll (callsFrom [100, 100, 200])).2.usedBy.length ≤ 1 := by
  obtain ⟨rng', hcreated⟩ := singleUseInvite_created
  have haccounts := Invite.uses_accounted 5 inviterDevice none (some 1) none singleUseInvite
    (freshFrom 10) rng' hcreated (callsFrom [100, 100, 200])
  refine ⟨?_, ?_, haccounts.2.1 1 rfl⟩
  · decide +kernel
  · decide +kernel

end Symbolic

end NostrDoubleRatchet
