import NostrDoubleRatchet.InviteUses
import NostrDoubleRatchet.SessionManager.Retention

/-!
What a failed `observe_invite_response` leaves behind. The invite is answered on a copy; the copy
is stored before the owner claim is looked at, so that a response without one fails but is used up.
-/

namespace NostrDoubleRatchet

variable {K T : Type} [LinearOrder K] [DecidableEq T] [Primitives K T] [InvitePrimitives K T]

namespace SessionManager

/-- The local invite accepts the response, whose payload names no owner. -/
def AcceptsUnclaimed (manager : SessionManager K T) (envelope : InviteResponseEnvelope K T)
    (rng : Rng K) : Prop :=
  ∃ invite response answered rng', manager.localInvite = some invite ∧
    invite.processResponse envelope manager.localDeviceSecretKey rng =
      (.ok (response, answered), rng') ∧ response.inviteeOwnerPubkey = none

/-- A failed response leaves the manager as it was, exactly unless the invite has accepted it
without an owner claim. -/
theorem failed_response_keeps_manager_iff (manager : SessionManager K T)
    (envelope : InviteResponseEnvelope K T) (now : UnixSeconds) (rng : Rng K) :
    (∀ e, (manager.observeInviteResponse envelope now rng).1 = .error e →
      (manager.observeInviteResponse envelope now rng).2.1 = manager) ↔
    ¬ manager.AcceptsUnclaimed envelope rng := by
  cases hinvite : manager.localInvite with
  | none =>
      have hnone : manager.observeInviteResponse envelope now rng = (.ok none, manager, rng) := by
        unfold observeInviteResponse
        rw [hinvite]
      rw [hnone]
      constructor
      · rintro - ⟨invite, response, answered, rng', hlocal, -, -⟩
        rw [hinvite] at hlocal
        cases hlocal
      · intro _ e h
        cases h
  | some invite =>
      generalize hprocess : invite.processResponse envelope manager.localDeviceSecretKey rng =
        processed
      obtain ⟨result, rng'⟩ := processed
      cases result with
      | error e =>
          have herror : manager.observeInviteResponse envelope now rng =
              (.error e, manager, rng') := by
            unfold observeInviteResponse
            rw [hinvite]
            dsimp only
            rw [hprocess]
          rw [herror]
          constructor
          · rintro - ⟨invite', response, answered, rng'', hlocal, haccepted, -⟩
            cases hinvite.symm.trans hlocal
            rw [hprocess] at haccepted
            cases haccepted
          · intro _ _ _
            rfl
      | ok processed =>
          obtain ⟨response, answered⟩ := processed
          obtain ⟨hnew, -, -, hanswered, -⟩ := Invite.processResponse_ok hprocess
          cases hclaim : response.inviteeOwnerPubkey with
          | some owner =>
              have hok : ∃ output, (manager.observeInviteResponse envelope now rng).1 =
                  .ok output := by
                unfold observeInviteResponse
                rw [hinvite]
                dsimp only
                rw [hprocess]
                dsimp only
                rw [hclaim]
                exact ⟨_, rfl⟩
              obtain ⟨output, hok⟩ := hok
              rw [hok]
              constructor
              · rintro - ⟨invite', response', answered', rng'', hlocal, haccepted, hnone⟩
                cases hinvite.symm.trans hlocal
                rw [hprocess] at haccepted
                cases haccepted
                rw [hclaim] at hnone
                cases hnone
              · intro _ e h
                cases h
          | none =>
              have hmissing : manager.observeInviteResponse envelope now rng =
                  (.error (.domain (.invalidState "invite response missing owner claim")),
                    { manager with localInvite := some answered }, rng') := by
                unfold observeInviteResponse
                rw [hinvite]
                dsimp only
                rw [hprocess]
                dsimp only
                rw [hclaim]
              rw [hmissing]
              constructor
              · intro hkept
                have hlocal := congrArg SessionManager.localInvite (hkept _ rfl)
                rw [hinvite] at hlocal
                have hsame : answered = invite := Option.some.inj hlocal
                -- The content is among the used ones now, which it was not before.
                have hmem : envelope.content ∈ answered.usedResponseContents := by
                  rw [hanswered, Invite.usedResponseContents_answeredBy,
                    Invite.mem_usedResponseContents_record]
                  exact Or.inr rfl
                rw [hsame] at hmem
                exact absurd hmem hnew
              · intro haccepts
                exact absurd ⟨invite, response, answered, rng', hinvite, hprocess, hclaim⟩ haccepts

end SessionManager

/-! A response that names no owner takes the only use of the local invite. -/

namespace Symbolic

def invitingManager : SessionManager KeyTerm TextTerm :=
  emptyManager.replaceLocalInvite singleUseInvite

/-- The response fails for its missing claim, and the invite is used up, so that the same device
can come back with a claim but no other one can. -/
theorem unclaimed_response_is_used_up : ∃ envelope,
    responseFrom 100 none = some envelope ∧
    (invitingManager.observeInviteResponse envelope 7 numbered).1.isOk = false ∧
    invitingManager.localInvite.map Invite.usedBy = some [] ∧
    (invitingManager.observeInviteResponse envelope 7 numbered).2.1.localInvite.map
      Invite.usedBy = some [inviteeDevice] ∧
    ¬ ∀ e, (invitingManager.observeInviteResponse envelope 7 numbered).1 = .error e →
      (invitingManager.observeInviteResponse envelope 7 numbered).2.1 = invitingManager := by
  have hfails : (responseFrom 100 none).map (fun envelope =>
      ((invitingManager.observeInviteResponse envelope 7 numbered).1.isOk,
        (invitingManager.observeInviteResponse envelope 7 numbered).2.1.localInvite.map
          Invite.usedBy)) = some (false, some [inviteeDevice]) := by
    decide +kernel
  obtain ⟨envelope, henvelope, hpair⟩ := Option.map_eq_some_iff.mp hfails
  obtain ⟨herror, hused⟩ := Prod.mk.inj hpair
  refine ⟨envelope, henvelope, herror, rfl, hused, ?_⟩
  intro hkept
  cases hresult : (invitingManager.observeInviteResponse envelope 7 numbered).1 with
  | ok output =>
      rw [hresult] at herror
      cases herror
  | error e =>
      rw [hkept e hresult] at hused
      revert hused
      decide

end Symbolic

end NostrDoubleRatchet
