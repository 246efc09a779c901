import NostrDoubleRatchet.Pairwise.FileStoreSteps

/-!
Runs of any stores on one folder. A commit is a commit of the store in memory on the register that
the folder stands for, and no commit that returned is lost. What a commit left under a private
name is gone once a store is opened.
-/

namespace NostrDoubleRatchet

namespace FileStore

open FaultyDisk Program

variable {K : Type}

/-- A commit returns only where the one of the store in memory succeeds, and leaves its value. -/
theorem commit_refines_memory {s : Machine FileName UInt8} {tried : Nat → Bytes → Prop}
    {base shown : StoredValue Bytes} (h : Register s.disk tried base shown) {generation : Nat}
    (hle : generation ≤ u64Max) (payload : Bytes) (nonce : Uuid) :
    Ends (commit (K := K) generation payload nonce) s
      (fun _ t => ∃ next : StoredValue Bytes, shown.commit (K := K) generation payload = .ok next ∧
        Register t.disk (orTried tried generation payload) next next ∧ KeptFrom generation t.disk)
      (fun interrupt t => Undone tried base shown generation payload interrupt t.disk) := by
  refine (commit_ends h hle payload nonce).mono ?_ (fun _ _ h => h)
  rintro _ t ⟨hnext, hregister⟩
  refine ⟨⟨generation, some payload⟩, ?_, hregister, hregister.keptFrom rfl⟩
  unfold StoredValue.commit
  rw [if_neg (by omega), if_neg (by omega)]

/-! Runs of a folder. -/

inductive StoreEvent where
  | committed (generation : Nat) (payload : Bytes)
  | unfinished (generation : Nat) (payload : Bytes)
  | loaded (found : Option Bytes)
  deriving DecidableEq

/-- A commit of the payload returned, or did not and was not taken back. -/
def Tried (events : List StoreEvent) (generation : Nat) (payload : Bytes) : Prop :=
  .committed generation payload ∈ events ∨ .unfinished generation payload ∈ events

/-- The events and the disk that any calls of any stores on one folder lead to, the newest event
first. The power may be lost between two calls, so also after a call that the process is killed
in. A cleanup is called for a generation that is kept. -/
inductive StoreRun (K : Type) (fresh : Disk FileName UInt8) :
    List StoreEvent → Disk FileName UInt8 → Prop
  | start : StoreRun K fresh [] fresh
  | opened {events : List StoreEvent} {disk : Disk FileName UInt8}
      (hrun : StoreRun K fresh events disk) (calls : Stream' (Call FileName)) :
      StoreRun K fresh events (exec (new (K := K)) ⟨disk, calls⟩).2.disk
  | loaded {events : List StoreEvent} {disk : Disk FileName UInt8}
      {calls : Stream' (Call FileName)} {found : Option Bytes} {after : Machine FileName UInt8}
      (hrun : StoreRun K fresh events disk)
      (hload : exec (load (K := K)) ⟨disk, calls⟩ = (.ok found, after)) :
      StoreRun K fresh (.loaded found :: events) after.disk
  | loadFailed {events : List StoreEvent} {disk : Disk FileName UInt8}
      (hrun : StoreRun K fresh events disk) (calls : Stream' (Call FileName)) :
      StoreRun K fresh events (exec (load (K := K)) ⟨disk, calls⟩).2.disk
  | committed {events : List StoreEvent} {disk : Disk FileName UInt8}
      {calls : Stream' (Call FileName)} {generation : Nat} {payload : Bytes} {nonce : Uuid}
      {after : Machine FileName UInt8} (hrun : StoreRun K fresh events disk)
      (hle : generation ≤ u64Max)
      (hcommit : exec (commit (K := K) generation payload nonce) ⟨disk, calls⟩ =
        (.ok (), after)) :
      StoreRun K fresh (.committed generation payload :: events) after.disk
  | unfinished {events : List StoreEvent} {disk : Disk FileName UInt8}
      {calls : Stream' (Call FileName)} {generation : Nat} {payload : Bytes} {nonce : Uuid}
      {interrupt : Interrupt (PairwiseError K)} {after : Machine FileName UInt8}
      (hrun : StoreRun K fresh events disk) (hle : generation ≤ u64Max)
      (hcommit : exec (commit (K := K) generation payload nonce) ⟨disk, calls⟩ =
        (.error interrupt, after)) (hwhy : interrupt = .killed ∨ RollbackFailed interrupt) :
      StoreRun K fresh (.unfinished generation payload :: events) after.disk
  | refused {events : List StoreEvent} {disk : Disk FileName UInt8}
      {calls : Stream' (Call FileName)} {generation : Nat} {payload : Bytes} {nonce : Uuid}
      {interrupt : Interrupt (PairwiseError K)} {after : Machine FileName UInt8}
      (hrun : StoreRun K fresh events disk) (hle : generation ≤ u64Max)
      (hcommit : exec (commit (K := K) generation payload nonce) ⟨disk, calls⟩ =
        (.error interrupt, after)) (hwhy : ¬(interrupt = .killed ∨ RollbackFailed interrupt)) :
      StoreRun K fresh events after.disk
  | cleaned {events : List StoreEvent} {disk : Disk FileName UInt8} {generation : Nat}
      (hrun : StoreRun K fresh events disk) (hkept : KeptFrom generation disk)
      (calls : Stream' (Call FileName)) :
      StoreRun K fresh events (exec (cleanup (K := K) generation) ⟨disk, calls⟩).2.disk
  | lostPower {events : List StoreEvent} {disk after : Disk FileName UInt8}
      (hrun : StoreRun K fresh events disk) (hloses : Disk.LosesPower disk after) :
      StoreRun K fresh events after

/-- What the events before it say of an event. -/
def StoreEvent.Follows (earlier : List StoreEvent) : StoreEvent → Prop
  | .committed generation _ => ∀ before payload, .committed before payload ∈ earlier →
      before < generation
  | .unfinished _ _ => True
  | .loaded found => (∀ content, found = some content → ∃ generation,
        Tried earlier generation content) ∧
      ∀ before payload, .committed before payload ∈ earlier →
        found = some payload ∨ ∃ generation content, found = some content ∧
          before < generation ∧ Tried earlier generation content

/-- What is there for certain is the newest commit that returned, or a later state. -/
structure StoreInvariant (events : List StoreEvent) (disk : Disk FileName UInt8)
    (base shown : StoredValue Bytes) : Prop where
  register : Register disk (Tried events) base shown
  reaches : ∀ generation payload, .committed generation payload ∈ events →
    base = ⟨generation, some payload⟩ ∨ generation < base.generation
  tried : ∀ payload, base.payload = some payload → Tried events base.generation payload
  follows : ∀ later event earlier, events = later ++ event :: earlier → event.Follows earlier

namespace StoreInvariant

variable {events : List StoreEvent} {disk next : Disk FileName UInt8}
  {base shown : StoredValue Bytes}

theorem start (h : ∀ generation node, ¬disk.MayHold (statePath generation) (some node)) :
    StoreInvariant [] disk StoredValue.empty StoredValue.empty := by
  have hnone : ∀ generation node, disk.MayHold (statePath generation) node → node = none := by
    intro generation node hnode
    cases node with
    | none => rfl
    | some node => exact absurd hnode (h generation node)
  refine ⟨⟨⟨?_, ?_⟩, ⟨?_, ?_, Nat.zero_le _, fun _ => rfl⟩, Nat.le_refl _, fun _ => rfl⟩, ?_, ?_, ?_⟩
  · exact hnone _
  · intro generation _ _ file hfile
    exact absurd hfile (h generation _)
  · exact hnone _ _ (disk.mayHold_self _)
  · intro generation _ _ file hfile
    have hmay := disk.mayHold_self (statePath generation)
    rw [hfile] at hmay
    exact h generation _ hmay
  · intro generation payload hmem
    cases hmem
  · intro payload himpossible
    cases himpossible
  · intro later event earlier hsplit
    exact absurd hsplit.symm (List.append_ne_nil_of_right_ne_nil later (List.cons_ne_nil _ _))

/-- What is there for certain becomes a later state. -/
theorem move {base' shown' : StoredValue Bytes} (h : StoreInvariant events disk base shown)
    (hregister : Register next (Tried events) base' shown')
    (hadvances : Advances (Tried events) base base') :
    StoreInvariant events next base' shown' := by
  rcases hadvances with rfl | ⟨hless, payload, hpayload, htried⟩
  · exact ⟨hregister, h.reaches, h.tried, h.follows⟩
  · refine ⟨hregister, ?_, ?_, h.follows⟩
    · intro generation content hmem
      rcases h.reaches generation content hmem with rfl | hlower
      · exact Or.inr hless
      · exact Or.inr (Nat.lt_trans hlower hless)
    · intro content hcontent
      rw [hpayload] at hcontent
      cases hcontent
      exact htried

theorem shown_tried (h : StoreInvariant events disk base shown) (payload : Bytes)
    (hpayload : shown.payload = some payload) : Tried events shown.generation payload := by
  rcases h.register.advances with rfl | ⟨-, content, hcontent, htried⟩
  · exact h.tried payload hpayload
  · rw [hpayload] at hcontent
    cases hcontent
    exact htried

/-- A load gives a state that was tried, and no earlier one than a commit that returned. -/
theorem loaded_follows (h : StoreInvariant events disk base shown) :
    (StoreEvent.loaded shown.payload).Follows events := by
  refine ⟨fun content hcontent => ⟨_, h.shown_tried content hcontent⟩, ?_⟩
  intro before payload hmem
  have hreaches := h.reaches before payload hmem
  rcases h.register.advances with rfl | ⟨hless, content, hcontent, htried⟩
  · rcases hreaches with rfl | hlower
    · exact Or.inl rfl
    · cases hpayload : shown.payload with
      | none =>
          have hzero := h.register.unset hpayload
          omega
      | some content =>
          exact Or.inr ⟨_, content, rfl, hlower, h.tried content hpayload⟩
  · refine Or.inr ⟨_, content, hcontent, ?_, htried⟩
    rcases hreaches with rfl | hlower
    · exact hless
    · exact Nat.lt_trans hlower hless

theorem committed_follows (h : StoreInvariant events disk base shown) (payload : Bytes) :
    (StoreEvent.committed (shown.generation + 1) payload).Follows events := by
  intro before content hmem
  have hle := h.register.le
  rcases h.reaches before content hmem with rfl | hlower
  · exact Nat.lt_succ_of_le hle
  · omega

theorem event {base' shown' : StoredValue Bytes} {event : StoreEvent}
    (h : StoreInvariant events disk base shown)
    (hregister : Register next (Tried (event :: events)) base' shown')
    (hreaches : ∀ generation payload, .committed generation payload ∈ event :: events →
      base' = ⟨generation, some payload⟩ ∨ generation < base'.generation)
    (htried : ∀ payload, base'.payload = some payload →
      Tried (event :: events) base'.generation payload)
    (hfollows : event.Follows events) : StoreInvariant (event :: events) next base' shown' := by
  refine ⟨hregister, hreaches, htried, ?_⟩
  intro later other earlier hsplit
  cases later with
  | nil =>
      obtain ⟨rfl, rfl⟩ := List.cons.inj hsplit
      exact hfollows
  | cons first later => exact h.follows later other earlier (List.cons.inj hsplit).2

end StoreInvariant

theorem Tried.cons {events : List StoreEvent} {event : StoreEvent} {generation : Nat}
    {payload : Bytes} (h : Tried events generation payload) :
    Tried (event :: events) generation payload :=
  h.imp (List.mem_cons_of_mem _) (List.mem_cons_of_mem _)

theorem StoreInvariant.unfinished {events : List StoreEvent} {disk next : Disk FileName UInt8}
    {base shown found : StoredValue Bytes} {generation : Nat} {payload : Bytes}
    (h : StoreInvariant events disk base shown)
    (hregister : Register next (Tried (.unfinished generation payload :: events)) base found) :
    StoreInvariant (.unfinished generation payload :: events) next base found := by
  refine h.event hregister ?_ (fun content hcontent => (h.tried content hcontent).cons) trivial
  intro before content hmem
  rcases List.mem_cons.mp hmem with himpossible | hmem
  · cases himpossible
  · exact h.reaches before content hmem

/-- A commit that returns, or is killed when its state is there for certain. -/
theorem StoreInvariant.finished {events : List StoreEvent} {disk next : Disk FileName UInt8}
    {base shown : StoredValue Bytes} {generation : Nat} {payload : Bytes} {event : StoreEvent}
    (h : StoreInvariant events disk base shown) (hnext : shown.generation + 1 = generation)
    (hevent : event = .committed generation payload ∨ event = .unfinished generation payload)
    (hregister : Register next (Tried (event :: events)) ⟨generation, some payload⟩
      ⟨generation, some payload⟩) :
    StoreInvariant (event :: events) next ⟨generation, some payload⟩
      ⟨generation, some payload⟩ := by
  subst hnext
  have hfollows := h.committed_follows payload
  refine h.event hregister ?_ ?_ ?_
  · intro before content hmem
    rcases List.mem_cons.mp hmem with hsame | hmem
    · rcases hevent with rfl | rfl
      · cases hsame
        exact Or.inl rfl
      · cases hsame
    · exact Or.inr (hfollows before content hmem)
  · intro content hcontent
    cases hcontent
    rcases hevent with rfl | rfl
    · exact Or.inl List.mem_cons_self
    · exact Or.inr List.mem_cons_self
  · rcases hevent with rfl | rfl
    · exact hfollows
    · trivial

theorem orTried_tried {events : List StoreEvent} {event : StoreEvent} {generation : Nat}
    {payload : Bytes}
    (hevent : event = .committed generation payload ∨ event = .unfinished generation payload)
    (other : Nat) (content : Bytes) (h : orTried (Tried events) generation payload other content) :
    Tried (event :: events) other content := by
  rcases h with htried | ⟨rfl, rfl⟩
  · exact htried.cons
  · rcases hevent with rfl | rfl
    · exact Or.inl List.mem_cons_self
    · exact Or.inr List.mem_cons_self

theorem StoreRun.invariant {fresh disk : Disk FileName UInt8} {events : List StoreEvent}
    (hfresh : ∀ generation node, ¬fresh.MayHold (statePath generation) (some node))
    (hrun : StoreRun K fresh events disk) :
    ∃ base shown, StoreInvariant events disk base shown := by
  induction hrun with
  | start => exact ⟨_, _, StoreInvariant.start hfresh⟩
  | @opened events disk hrun calls ih =>
      obtain ⟨base, shown, h⟩ := ih
      have hends := new_ends (K := K) (s := ⟨disk, calls⟩) h.register
      generalize hnew : exec (new (K := K)) ⟨disk, calls⟩ = outcome
      obtain ⟨interrupt | _, after⟩ := outcome
      · exact ⟨base, shown, h.move (hends.stopped _ _ hnew) (Or.inl rfl)⟩
      · exact ⟨shown, shown, h.move (hends.returned _ _ hnew) h.register.advances⟩
  | @loaded events disk calls found after hrun hload ih =>
      obtain ⟨base, shown, h⟩ := ih
      have hkeeps := load_keeps (K := K) ⟨disk, calls⟩
      rw [hload] at hkeeps
      have hfound := (load_ends (K := K) (s := ⟨disk, calls⟩) h.register.shows).returned _ _ hload
      subst hfound
      refine ⟨base, shown, h.event ((h.register.keeps hkeeps).mono fun _ _ => Tried.cons) ?_
        (fun content hcontent => (h.tried content hcontent).cons) h.loaded_follows⟩
      intro generation payload hmem
      rcases List.mem_cons.mp hmem with himpossible | hmem
      · cases himpossible
      · exact h.reaches generation payload hmem
  | @loadFailed events disk hrun calls ih =>
      obtain ⟨base, shown, h⟩ := ih
      exact ⟨base, shown, h.move (h.register.keeps (load_keeps (K := K) ⟨disk, calls⟩))
        (Or.inl rfl)⟩
  | @committed events disk calls generation payload nonce after hrun hle hcommit ih =>
      obtain ⟨base, shown, h⟩ := ih
      obtain ⟨hnext, hregister⟩ := (commit_ends (K := K) (s := ⟨disk, calls⟩) h.register hle payload
        nonce).returned _ _ hcommit
      exact ⟨_, _, h.finished hnext (Or.inl rfl) (hregister.mono (orTried_tried (Or.inl rfl)))⟩
  | @unfinished events disk calls generation payload nonce interrupt after hrun hle hcommit _ ih =>
      obtain ⟨base, shown, h⟩ := ih
      cases (commit_ends (K := K) (s := ⟨disk, calls⟩) h.register hle payload
        nonce).stopped _ _ hcommit with
      | unchanged hregister =>
          exact ⟨base, shown, h.unfinished (hregister.mono fun _ _ => Tried.cons)⟩
      | unfinished _ _ found _ hregister =>
          exact ⟨base, found, h.unfinished (hregister.mono (orTried_tried (Or.inr rfl)))⟩
      | finished hnext _ hregister =>
          exact ⟨_, _, h.finished hnext (Or.inr rfl)
            (hregister.mono (orTried_tried (Or.inr rfl)))⟩
  | @refused events disk calls generation payload nonce interrupt after hrun hle hcommit hwhy ih =>
      obtain ⟨base, shown, h⟩ := ih
      cases (commit_ends (K := K) (s := ⟨disk, calls⟩) h.register hle payload
        nonce).stopped _ _ hcommit with
      | unchanged hregister => exact ⟨base, shown, h.move hregister (Or.inl rfl)⟩
      | unfinished _ hmay _ _ _ => exact absurd hmay hwhy
      | finished _ hkilled _ => exact absurd (Or.inl hkilled) hwhy
  | @cleaned events disk generation hrun hkept calls ih =>
      obtain ⟨base, shown, h⟩ := ih
      obtain ⟨base', hadvances, hregister⟩ :=
        cleanup_register (K := K) (s := ⟨disk, calls⟩) h.register hkept
      exact ⟨base', shown, h.move hregister hadvances⟩
  | @lostPower events disk after hrun hloses ih =>
      obtain ⟨base, shown, h⟩ := ih
      obtain ⟨found, hregister, hadvances⟩ := h.register.losesPower hloses
      exact ⟨found, found, h.move hregister hadvances⟩

/-- On a folder that starts without a state, whatever calls of the file system fail and wherever
the process is killed or the power is lost: of each generation at most one commit returns, the
generations only grow, and a load gives the payload of the newest commit that returned or a later
one that was not taken back. -/
theorem file_store_keeps_commits {fresh disk : Disk FileName UInt8}
    (hfresh : ∀ generation node, ¬fresh.MayHold (statePath generation) (some node))
    {events : List StoreEvent} (hrun : StoreRun K fresh events disk)
    {later earlier : List StoreEvent} {event : StoreEvent}
    (hsplit : events = later ++ event :: earlier) : event.Follows earlier := by
  obtain ⟨base, shown, h⟩ := hrun.invariant hfresh
  exact h.follows later event earlier hsplit

/-! What is left under private names. -/

/-- Whatever a name holds may go. -/
def Erases (s t : Disk FileName UInt8) : Prop := Disk.Drops (fun _ => True) s t

theorem erases_bound : Disk.Bound Erases := Disk.Drops.bound _

/-- A part of a sweep: unless it has met an error, the names of `due` are gone. -/
structure Swept (due : FileName → Prop) (before after : Disk FileName UInt8)
    (sweep result : Sweep K) : Prop where
  erases : Erases before after
  failed : sweep.firstError ≠ none → result.firstError ≠ none
  removed : sweep.removed = true → result.removed = true
  gone : result.firstError = none → ∀ name, due name →
    result.removed = true ∧ after.entries.get? name = none

namespace Swept

variable {due due' : FileName → Prop} {s t u : Disk FileName UInt8}
  {sweep middle result : Sweep K}

theorem refl (s : Disk FileName UInt8) (sweep : Sweep K) :
    Swept (fun _ => False) s s sweep sweep :=
  ⟨erases_bound.refl s, fun h => h, fun h => h, fun _ _ himpossible => himpossible.elim⟩

theorem trans (hst : Swept due s t sweep middle) (htu : Swept due' t u middle result) :
    Swept (fun name => due name ∨ due' name) s u sweep result := by
  refine ⟨erases_bound.trans _ _ _ hst.erases htu.erases, fun h => htu.failed (hst.failed h),
    fun h => htu.removed (hst.removed h), ?_⟩
  intro hnone name hdue
  rcases hdue with hdue | hdue
  · have hmiddle : middle.firstError = none := by
      by_contra hfailed
      exact htu.failed hfailed hnone
    obtain ⟨hremoved, hgone⟩ := hst.gone hmiddle name hdue
    refine ⟨htu.removed hremoved, ?_⟩
    rcases htu.erases.holds name trivial with hsame | hgone'
    · rw [hsame]
      exact hgone
    · exact hgone'
  · exact htu.gone hnone name hdue

theorem mono (h : Swept due s t sweep result) (hle : ∀ name, due' name → due name) :
    Swept due' s t sweep result :=
  ⟨h.erases, h.failed, h.removed, fun hnone name hdue => h.gone hnone name (hle name hdue)⟩

theorem note (h : Erases s t) (error : PairwiseError K) :
    Swept due s t sweep (sweep.note error) := by
  have hnoted : (sweep.note error).firstError ≠ none := by
    unfold Sweep.note
    cases sweep.firstError with
    | none => exact fun himpossible => by cases himpossible
    | some first => exact fun himpossible => by cases himpossible
  exact ⟨h, fun _ => hnoted, fun h => h, fun hnone => absurd hnone hnoted⟩

end Swept

theorem remove_ends (operation : String) (sweep : Sweep K) (path : FileName)
    (s : Machine FileName UInt8) :
    Ends (sweep.remove operation path) s
      (fun result t => Swept (fun name => name = path) s.disk t.disk sweep result)
      (fun _ _ => True) := by
  apply Ends.bind
  apply Ends.attempt
  apply Ends.mapFailure
  apply Ends.mapFailure
  have hwithin := Ends.of_moves (Within.removeFile erases_bound
    fun d => Disk.Drops.remove d path) s
  refine ((change_ends _ s).and hwithin).mono ?_ ?_
  · rintro _ t ⟨hremove, herases⟩
    apply Ends.pure
    refine ⟨herases, fun h => h, fun _ => rfl, ?_⟩
    rintro - name rfl
    refine ⟨rfl, ?_⟩
    split at hremove
    · cases hremove
    · rw [← Except.ok.inj hremove]
      exact SortedMap.get?_erase_self _ _
    · cases hremove
  · rintro interrupt t ⟨-, herases⟩
    cases interrupt with
    | killed => exact Or.inl ⟨rfl, trivial⟩
    | failed error => exact Or.inr ⟨_, rfl, Ends.pure (Swept.note herases _)⟩

theorem removeTemporaries_ends (entries : List (FileName × Bool)) (sweep : Sweep K)
    (s : Machine FileName UInt8) :
    Ends (removeTemporaries entries sweep) s
      (fun result t => Swept (fun name => isPrivateTemporaryFilename name = true ∧
        ∃ isFile, (name, isFile) ∈ entries) s.disk t.disk sweep result)
      (fun _ _ => True) := by
  induction entries generalizing sweep s with
  | nil =>
      apply Ends.pure
      apply (Swept.refl _ _).mono
      rintro name ⟨-, isFile, himpossible⟩
      cases himpossible
  | cons entry rest ih =>
      obtain ⟨name, isFile⟩ := entry
      unfold removeTemporaries
      have hpart : Within Erases (attempt (storage (io "read state entry for temp recovery" touch)) :
          FileStoreM K (Except (PairwiseError K) Unit)) :=
        Within.attempt (storage_within (touch_within erases_bound _))
      apply Within.ends_bind hpart (fun _ _ _ => trivial)
      intro outcome t ht
      cases outcome with
      | error error =>
          refine (ih (sweep.note error) t).mono ?_ (fun _ _ _ => trivial)
          intro result u hu
          have hnoted : Swept (fun _ => True) s.disk t.disk sweep (sweep.note error) :=
            Swept.note ht error
          exact (hnoted.trans hu).mono fun _ _ => Or.inl trivial
      | ok _ =>
          have hsame : Swept (fun _ => False) s.disk t.disk sweep sweep :=
            ⟨ht, fun h => h, fun h => h, fun _ _ himpossible => himpossible.elim⟩
          dsimp only
          split
          · rename_i hpublic
            refine (ih sweep t).mono ?_ (fun _ _ _ => trivial)
            intro result u hu
            apply (hsame.trans hu).mono
            rintro other ⟨hprivate, otherFile, hmem⟩
            rcases List.mem_cons.mp hmem with hother | hmem
            · cases hother
              rw [hprivate] at hpublic
              cases hpublic
            · exact Or.inr ⟨hprivate, otherFile, hmem⟩
          · apply Ends.bind
            refine (remove_ends _ sweep name t).mono ?_ (fun _ _ _ => trivial)
            intro swept u hu
            refine (ih swept u).mono ?_ (fun _ _ _ => trivial)
            intro result v hv
            apply ((hsame.trans hu).trans hv).mono
            rintro other ⟨hprivate, otherFile, hmem⟩
            rcases List.mem_cons.mp hmem with hother | hmem
            · cases hother
              exact Or.inl (Or.inr rfl)
            · exact Or.inr ⟨hprivate, otherFile, hmem⟩

/-- On a synced folder, a recovery that returns leaves nothing under a private name. -/
theorem recoverStaleTemporariesLocked_ends {s : Machine FileName UInt8}
    (hsynced : s.disk.replaced = []) :
    Ends (recoverStaleTemporariesLocked (K := K)) s
      (fun _ t => ∀ name, isPrivateTemporaryFilename name = true → ∀ node,
        t.disk.MayHold name node → node = none)
      (fun _ _ => True) := by
  apply Ends.bind
  apply Ends.mapFailure
  apply Ends.mapFailure
  refine (inspect_ends _ s).mono ?_ (fun _ _ _ => trivial)
  rintro entries t ⟨hlisting, hdisk⟩
  cases hlisting
  apply Ends.bind
  refine (removeTemporaries_ends _ _ t).mono ?_ (fun _ _ _ => trivial)
  intro sweep u hu
  rw [hdisk] at hu
  have hgone : sweep.firstError = none → ∀ name, isPrivateTemporaryFilename name = true →
      s.disk.entries.get? name ≠ none → sweep.removed = true ∧
        u.disk.entries.get? name = none := by
    intro hnone name hprivate hheld
    obtain ⟨node, hnode⟩ := Option.ne_none_iff_exists'.mp hheld
    exact hu.gone hnone name ⟨hprivate, node.isFile, Disk.mem_listing.mpr ⟨node, hnode, rfl⟩⟩
  have hempty : sweep.firstError = none → ∀ name, isPrivateTemporaryFilename name = true →
      u.disk.entries.get? name = none := by
    intro hnone name hprivate
    by_cases hheld : s.disk.entries.get? name = none
    · rcases hu.erases.holds name trivial with hsame | hgone'
      · rw [hsame]
        exact hheld
      · exact hgone'
    · exact (hgone hnone name hprivate hheld).2
  unfold Sweep.finish Sweep.sync
  cases hremoved : sweep.removed with
  | true =>
      apply Ends.bind
      apply Ends.attempt
      apply Ends.mapFailure
      refine (syncDirectory_ends u).mono ?_ ?_
      · rintro _ v ⟨hclean, hv⟩
        cases hnone : sweep.firstError with
        | some error => exact Ends.throw trivial
        | none =>
            apply Ends.pure
            intro name hprivate node hnode
            rw [(Disk.mayHold_of_synced hclean).mp hnode, hv.holds name trivial]
            exact hempty hnone name hprivate
      · intro interrupt v _
        cases interrupt with
        | killed => exact Or.inl ⟨rfl, trivial⟩
        | failed error =>
            refine Or.inr ⟨_, rfl, ?_⟩
            cases sweep.firstError with
            | some error => exact Ends.throw trivial
            | none => exact Ends.throw trivial
  | false =>
      apply Ends.bind
      apply Ends.pure
      cases hnone : sweep.firstError with
      | some error => exact Ends.throw trivial
      | none =>
          apply Ends.pure
          intro name hprivate node hnode
          cases node with
          | none => rfl
          | some node =>
              have hbefore := hu.erases.mayHold name trivial node hnode
              rw [Disk.mayHold_of_synced hsynced] at hbefore
              have hheld : s.disk.entries.get? name ≠ none := by
                rw [← hbefore]
                exact fun himpossible => by cases himpossible
              rw [(hgone hnone name hprivate hheld).1] at hremoved
              cases hremoved

/-- What a commit wrote under a private name, wherever it ended, is gone for good once a store is
opened on the folder. -/
theorem new_discards_temporaries {s t : Machine FileName UInt8}
    (hnew : exec (new (K := K)) s = (.ok (), t)) {generation : Nat} (hle : generation ≤ u64Max)
    (nonce : Uuid) {node : Option (Node UInt8)}
    (hnode : t.disk.MayHold (temporaryPath generation nonce) node) : node = none := by
  have hends : Ends (new (K := K)) s
      (fun _ t => ∀ name, isPrivateTemporaryFilename name = true → ∀ node,
        t.disk.MayHold name node → node = none) (fun _ _ => True) := by
    have htrue : ∀ {α : Type} (x : FileStoreM K α), Within (fun _ _ => True) x :=
      fun _ _ => trivial
    apply Within.ends_bind (htrue _) (fun _ _ _ => trivial)
    intro _ s₁ _
    apply Within.ends_bind (htrue _) (fun _ _ _ => trivial)
    intro _ s₂ _
    apply Within.ends_bind (htrue _) (fun _ _ _ => trivial)
    intro _ s₃ _
    apply Ends.bind
    apply Ends.mapFailure
    refine (syncDirectory_ends s₃).mono ?_ (fun _ _ _ => trivial)
    rintro _ s₄ ⟨hsynced, -⟩
    exact recoverStaleTemporariesLocked_ends hsynced
  exact hends.returned _ _ hnew _ (isPrivateTemporaryFilename_temporaryPath hle nonce) node hnode

/-! A commit that is killed once its state is published. -/

namespace KilledCommit

/-- The calls of a system on which the call of one number is the last. -/
def killedAt (number : Nat) : Stream' (Call FileName) := fun index =>
  ⟨if index = number then some .kills else none, 0, fun _ => 0⟩

def works : Stream' (Call FileName) := fun _ => ⟨none, 0, fun _ => 0⟩

def nonce : Uuid := ⟨List.replicate 16 0, rfl⟩

def fresh : Disk FileName UInt8 := ⟨SortedMap.empty, []⟩

theorem fresh_empty (generation : Nat) (node : Node UInt8) :
    ¬fresh.MayHold (statePath generation) (some node) := by
  rintro (himpossible | himpossible)
  · cases himpossible
  · cases himpossible

/-- The first commit on the folder. -/
theorem first_commit_ends :
    Ends (commit (K := Unit) 1 [7] nonce) ⟨fresh, works⟩
      (fun _ t => ∃ next : StoredValue Bytes,
        StoredValue.empty.commit (K := Unit) 1 ([7] : Bytes) = .ok next ∧
          Register t.disk (orTried (Tried []) 1 [7]) next next ∧ KeptFrom 1 t.disk)
      (fun interrupt t => Undone (Tried []) StoredValue.empty StoredValue.empty 1 [7] interrupt
        t.disk) :=
  commit_refines_memory (s := ⟨fresh, works⟩) (StoreInvariant.start fresh_empty).register
    (by decide) [7] nonce

/-- The state of the killed commit is found, and no earlier one. -/
theorem second_state_found :
    (StoreEvent.loaded (some [8])).Follows [.unfinished 2 [8], .committed 1 [7]] := by
  let first : FileStoreM Unit Unit := commit 1 [7] nonce
  let second : FileStoreM Unit Unit := commit 2 [8] nonce
  have hruns : (exec first ⟨fresh, works⟩).1 = .ok () ∧
      (exec second ⟨(exec first ⟨fresh, works⟩).2.disk, killedAt 16⟩).1 = .error .killed ∧
      (exec (load (K := Unit)) ⟨(exec second
        ⟨(exec first ⟨fresh, works⟩).2.disk, killedAt 16⟩).2.disk, works⟩).1 =
          .ok (some [8]) := by
    decide +kernel
  generalize hfirst : exec first ⟨fresh, works⟩ = outcome at hruns
  obtain ⟨result, afterFirst⟩ := outcome
  dsimp only at hruns
  generalize hsecond : exec second ⟨afterFirst.disk, killedAt 16⟩ = outcome at hruns
  obtain ⟨result', afterSecond⟩ := outcome
  dsimp only at hruns
  generalize hthird : exec (load (K := Unit)) ⟨afterSecond.disk, works⟩ = outcome at hruns
  obtain ⟨result'', afterThird⟩ := outcome
  obtain ⟨rfl, rfl, rfl⟩ := hruns
  have hstart : StoreRun Unit fresh [] fresh := StoreRun.start
  have hcommitted := StoreRun.committed hstart (by decide) hfirst
  have hkilled := StoreRun.unfinished hcommitted (by decide) hsecond (Or.inl rfl)
  exact file_store_keeps_commits fresh_empty (StoreRun.loaded hkilled hthird)
    (List.nil_append _).symm

/-- A commit that is killed while it writes leaves a private file, until a store is opened. -/
theorem written_part_discarded :
    (exec (commit (K := Unit) 1 [7] nonce) ⟨fresh, killedAt 9⟩).2.disk.entries.get?
        (temporaryPath 1 nonce) = some (.file ⟨[], false⟩) ∧
      (exec (new (K := Unit)) ⟨(exec (commit (K := Unit) 1 [7] nonce)
        ⟨fresh, killedAt 9⟩).2.disk, works⟩).2.disk.entries.get? (temporaryPath 1 nonce) =
          none := by
  have hruns : (exec (commit (K := Unit) 1 [7] nonce) ⟨fresh, killedAt 9⟩).2.disk.entries.get?
        (temporaryPath 1 nonce) = some (.file ⟨[], false⟩) ∧
      (exec (new (K := Unit)) ⟨(exec (commit (K := Unit) 1 [7] nonce)
        ⟨fresh, killedAt 9⟩).2.disk, works⟩).1 = .ok () := by
    decide +kernel
  obtain ⟨hleft, hnew⟩ := hruns
  refine ⟨hleft, ?_⟩
  generalize (exec (commit (K := Unit) 1 [7] nonce) ⟨fresh, killedAt 9⟩).2.disk = disk at hnew ⊢
  generalize hrun : exec (new (K := Unit)) ⟨disk, works⟩ = outcome at hnew ⊢
  obtain ⟨result, after⟩ := outcome
  dsimp only at hnew
  subst hnew
  exact new_discards_temporaries hrun (by decide) nonce (after.disk.mayHold_self _)

end KilledCommit

end FileStore

end NostrDoubleRatchet
