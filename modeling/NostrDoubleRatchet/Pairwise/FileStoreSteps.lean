import NostrDoubleRatchet.Pairwise.FileStoreRegister

/-!
What each method of the file store does to the register of its folder, whatever calls of the file
system fail and wherever the process is killed. A commit that returns leaves its own state for
certain. One that does not leaves the register as it was, unless it is killed or its rollback
fails as well.
-/

namespace NostrDoubleRatchet

namespace FileStore

open FaultyDisk Program

variable {K α : Type}

section Within

variable {r : Disk FileName UInt8 → Disk FileName UInt8 → Prop}

theorem io_within {operation : String} {x : DiskM FileName UInt8 α} (h : Within r x) :
    Within r (io operation x) :=
  Within.mapFailure h

theorem storage_within {x : StorageM α} (h : Within r x) :
    Within r (storage x : FileStoreM K α) :=
  Within.mapFailure h

variable (hr : Disk.Bound r)
include hr

theorem touch_within (operation : String) : Within r (io operation touch) :=
  io_within (Within.inspect hr _)

theorem check_within (result : Except (PairwiseError K) α) : Within r (check result) :=
  Within.ofExcept hr _

theorem syncDirectory_within : Within r syncDirectory :=
  Within.bind hr (touch_within hr _) fun _ => io_within (Within.syncFolder hr)

theorem acquireLock_within (hlock : ∀ s node, r s (s.put lockPath node)) :
    Within r acquireLock := by
  apply Within.bind hr (io_within (Within.openOrCreate hr hlock))
  intro _
  apply Within.bind hr (touch_within hr _)
  intro _
  exact touch_within hr _

theorem visitEntries_within {visitor : Nat → FileName → α → FileStoreM K α}
    (hvisitor : ∀ generation, generation ≤ u64Max → ∀ found,
      Within r (visitor generation (statePath generation) found))
    (entries : List (FileName × Bool)) (found : α) :
    Within r (visitEntries visitor entries found) := by
  induction entries generalizing found with
  | nil => exact Within.pure hr _
  | cons entry rest ih =>
      obtain ⟨name, isFile⟩ := entry
      unfold visitEntries
      apply Within.bind hr
      · apply Within.attempt
        apply storage_within
        exact Within.bind hr (touch_within hr _) fun _ => touch_within hr _
      intro outcome
      cases outcome with
      | error error => exact Within.pure hr _
      | ok _ =>
          dsimp only
          split
          · exact ih found
          · split
            · exact Within.pure hr _
            · exact ih found
            · rename_i generation hparse
              obtain ⟨rfl, hle⟩ := parseGenerationFilename_eq_some.mp hparse
              exact Within.bind hr (hvisitor generation hle found) ih

theorem visitGenerationsLocked_within {visitor : Nat → FileName → α → FileStoreM K α}
    (hvisitor : ∀ generation, generation ≤ u64Max → ∀ found,
      Within r (visitor generation (statePath generation) found)) (start : α) :
    Within r (visitGenerationsLocked visitor start) := by
  apply Within.bind hr
  · apply Within.attempt
    apply storage_within
    exact io_within (Within.inspect hr _)
  intro outcome
  cases outcome with
  | error error => exact Within.pure hr _
  | ok entries => exact visitEntries_within hr hvisitor entries start

theorem highestGenerationLocked_within :
    Within r (highestGenerationLocked : FileStoreM K (Option (Nat × FileName))) := by
  apply Within.bind hr
  · exact visitGenerationsLocked_within hr (fun _ _ _ => Within.pure hr _) none
  intro found
  exact Within.bind hr (check_within hr _) fun _ => Within.pure hr _

theorem finish_within (sweep : Sweep K) : Within r sweep.finish := by
  apply Within.bind hr
  · unfold Sweep.sync
    split
    · exact Within.attempt (storage_within (syncDirectory_within hr))
    · exact Within.pure hr _
  intro synced
  split
  · exact Within.fail hr _
  · exact check_within hr _

theorem remove_within {operation : String} {path : FileName} (h : ∀ s, r s (s.remove path))
    (sweep : Sweep K) : Within r (sweep.remove operation path) := by
  apply Within.bind hr
  · exact Within.attempt (storage_within (io_within (Within.removeFile hr h)))
  intro result
  cases result with
  | error error => exact Within.pure hr _
  | ok _ => exact Within.pure hr _

theorem removeTemporaries_within
    (h : ∀ name, isPrivateTemporaryFilename name = true → ∀ s, r s (s.remove name))
    (entries : List (FileName × Bool)) (sweep : Sweep K) :
    Within r (removeTemporaries entries sweep) := by
  induction entries generalizing sweep with
  | nil => exact Within.pure hr _
  | cons entry rest ih =>
      obtain ⟨name, isFile⟩ := entry
      unfold removeTemporaries
      apply Within.bind hr
      · exact Within.attempt (storage_within (touch_within hr _))
      intro outcome
      cases outcome with
      | error error => exact ih _
      | ok _ =>
          dsimp only
          split
          · exact ih _
          · rename_i hprivate
            apply Within.bind hr
            · exact remove_within hr (h name (by simpa using hprivate)) sweep
            · exact ih

theorem recoverStaleTemporariesLocked_within
    (h : ∀ name, isPrivateTemporaryFilename name = true → ∀ s, r s (s.remove name)) :
    Within r (recoverStaleTemporariesLocked : FileStoreM K Unit) := by
  apply Within.bind hr
  · exact storage_within (io_within (Within.inspect hr _))
  intro entries
  apply Within.bind hr
  · exact removeTemporaries_within hr h entries _
  intro sweep
  exact finish_within hr sweep

theorem removeOlderGenerationsLocked_within {generation : Nat}
    (h : ∀ stored < generation, stored ≤ u64Max → ∀ s, r s (s.remove (statePath stored))) :
    Within r (removeOlderGenerationsLocked generation : FileStoreM K Unit) := by
  apply Within.bind hr
  · apply visitGenerationsLocked_within hr
    intro stored hle sweep
    unfold removeOlder
    split
    · exact Within.pure hr _
    · rename_i hless
      exact remove_within hr (h stored (by omega) hle) sweep
  intro outcome
  obtain ⟨sweep, visitResult⟩ := outcome
  cases visitResult with
  | error error => exact finish_within hr _
  | ok _ => exact finish_within hr _

theorem readFile_within {β : Type} (operation : String) (path : FileName)
    (f : Bytes → Except IoError β) :
    Within r (storage (io operation (readFile path f)) : FileStoreM K β) :=
  storage_within (io_within (Within.inspect hr _))

theorem readStateLocked_within (path : FileName) :
    Within r (readStateLocked path : FileStoreM K Bytes) := by
  apply Within.bind hr (readFile_within hr _ _ _)
  intro _
  apply Within.bind hr (readFile_within hr _ _ _)
  intro length
  apply Within.bind hr (check_within hr _)
  intro _
  apply Within.bind hr (check_within hr _)
  intro _
  apply Within.bind hr (storage_within (touch_within hr _))
  intro _
  apply Within.bind hr (Within.mapFailure (Within.inspect hr _))
  intro payload
  apply Within.bind hr (readFile_within hr _ _ _)
  intro extra
  apply Within.bind hr (readFile_within hr _ _ _)
  intro finalLength
  apply Within.bind hr (check_within hr _)
  intro _
  exact Within.pure hr _

theorem discardTemporaryLocked_within {temporary : FileName}
    (h : ∀ s, r s (s.remove temporary)) : Within r (discardTemporaryLocked temporary) := by
  apply Within.bind hr (Within.attempt (Within.removeFile hr h))
  intro removed
  cases removed with
  | ok _ => exact syncDirectory_within hr
  | error error =>
      dsimp only
      split
      · exact Within.pure hr _
      · exact Within.fail hr _

theorem rollbackRemove_within {operation : String} {path : FileName}
    (h : ∀ s, r s (s.remove path)) : Within r (rollbackRemove operation path) := by
  apply Within.bind hr (Within.attempt (Within.removeFile hr h))
  intro removed
  cases removed with
  | ok _ => exact Within.pure hr _
  | error error =>
      dsimp only
      split
      · exact Within.pure hr _
      · exact Within.pure hr _

theorem rollbackPublishLocked_within {temporary : FileName} {destination : Option FileName}
    (htemporary : ∀ s, r s (s.remove temporary))
    (hdestination : ∀ path, destination = some path → ∀ s, r s (s.remove path)) (cause : String) :
    Within r (rollbackPublishLocked temporary destination cause) := by
  apply Within.bind hr
  · cases destination with
    | none => exact Within.pure hr _
    | some path => exact rollbackRemove_within hr (hdestination path rfl)
  intro published
  apply Within.bind hr (rollbackRemove_within hr htemporary)
  intro unfinished
  apply Within.bind hr (Within.attempt (syncDirectory_within hr))
  intro synced
  exact Within.pure hr _

theorem writeTemporary_within {temporary : FileName}
    (hput : ∀ s node, r s (s.put temporary node))
    (hset : ∀ s file, r s (s.setFile temporary file)) (payload : Bytes) :
    Within r (writeTemporary temporary payload) := by
  apply Within.bind hr (io_within (Within.createNew hr hput))
  intro _
  apply Within.bind hr (io_within (Within.writeAll hr hset payload))
  intro _
  exact io_within (Within.syncFile hr hset)

end Within

/-! What the methods do to the register. -/

theorem removePrivate_keeps (name : FileName) (h : isPrivateTemporaryFilename name = true)
    (s : Disk FileName UInt8) : Disk.Keeps IsState s (s.remove name) := by
  apply Disk.Keeps.remove
  rintro ⟨generation, -, hname⟩
  exact private_ne_statePath h generation hname

theorem acquireLock_keeps : Within (Disk.Keeps IsState) acquireLock := by
  apply acquireLock_within (Disk.Keeps.bound _)
  intro s node
  apply Disk.Keeps.put
  rintro ⟨generation, -, hname⟩
  exact lockPath_ne_statePath generation hname

theorem recover_keeps :
    Within (Disk.Keeps IsState) (recoverStaleTemporariesLocked : FileStoreM K Unit) :=
  recoverStaleTemporariesLocked_within (Disk.Keeps.bound _) removePrivate_keeps

theorem temporary_not_state (generation : Nat) (nonce : Uuid) :
    ¬IsState (temporaryPath generation nonce) := by
  rintro ⟨other, -, hname⟩
  exact temporaryPath_ne_statePath generation nonce other hname

section Highest

/-- The highest generation among those found before and the files of a list. -/
structure IsHighest (entries : List (FileName × Bool)) (found highest : Option (Nat × FileName)) :
    Prop where
  among : highest = found ∨ ∃ generation, generation ≤ u64Max ∧
    (statePath generation, true) ∈ entries ∧ highest = some (generation, statePath generation)
  found_le : ∀ earlier, found = some earlier → ∃ last, highest = some last ∧ earlier.1 ≤ last.1
  entries_le : ∀ generation, generation ≤ u64Max → (statePath generation, true) ∈ entries →
    ∃ last, highest = some last ∧ generation ≤ last.1

theorem IsHighest.skip {entries : List (FileName × Bool)} {found highest : Option (Nat × FileName)}
    {entry : FileName × Bool} (h : IsHighest entries found highest)
    (hentry : ∀ generation, generation ≤ u64Max → entry ≠ (statePath generation, true)) :
    IsHighest (entry :: entries) found highest := by
  refine ⟨?_, h.found_le, ?_⟩
  · rcases h.among with hsame | ⟨generation, hle, hmem, hsome⟩
    · exact Or.inl hsame
    · exact Or.inr ⟨generation, hle, List.mem_cons_of_mem _ hmem, hsome⟩
  · intro generation hle hmem
    rcases List.mem_cons.mp hmem with himpossible | hmem
    · exact absurd himpossible.symm (hentry generation hle)
    · exact h.entries_le generation hle hmem

theorem IsHighest.visit {entries : List (FileName × Bool)}
    {found highest : Option (Nat × FileName)} {generation : Nat} (hle : generation ≤ u64Max)
    (h : IsHighest entries (keepHigher generation (statePath generation) found) highest) :
    IsHighest ((statePath generation, true) :: entries) found highest := by
  have hkept : keepHigher generation (statePath generation) found =
        some (generation, statePath generation) ∧
        (∀ earlier, found = some earlier → earlier.1 ≤ generation) ∨
      keepHigher generation (statePath generation) found = found ∧
        ∃ earlier, found = some earlier ∧ generation ≤ earlier.1 := by
    unfold keepHigher
    cases found with
    | none => exact Or.inl ⟨rfl, fun _ himpossible => by cases himpossible⟩
    | some earlier =>
        by_cases hless : earlier.1 < generation
        · refine Or.inl ⟨by simp [hless], ?_⟩
          intro other hother
          cases hother
          exact Nat.le_of_lt hless
        · exact Or.inr ⟨by simp [hless], earlier, rfl, Nat.le_of_not_lt hless⟩
  rcases hkept with ⟨hkept, hearlier⟩ | ⟨hkept, earlier, hfound, hearlier⟩
  · rw [hkept] at h
    obtain ⟨last, hlast, hlower⟩ := h.found_le _ rfl
    refine ⟨?_, ?_, ?_⟩
    · rcases h.among with hsame | ⟨other, hother, hmem, hsome⟩
      · exact Or.inr ⟨generation, hle, List.mem_cons_self, hsame⟩
      · exact Or.inr ⟨other, hother, List.mem_cons_of_mem _ hmem, hsome⟩
    · intro earlier hfound
      exact ⟨last, hlast, Nat.le_trans (hearlier earlier hfound) hlower⟩
    · intro other hother hmem
      rcases List.mem_cons.mp hmem with hsame | hmem
      · have hsame' := statePath_injective hother (congrArg Prod.fst hsame) hle
        exact ⟨last, hlast, hsame' ▸ hlower⟩
      · exact h.entries_le other hother hmem
  · rw [hkept] at h
    refine ⟨?_, h.found_le, ?_⟩
    · rcases h.among with hsame | ⟨other, hother, hmem, hsome⟩
      · exact Or.inl hsame
      · exact Or.inr ⟨other, hother, List.mem_cons_of_mem _ hmem, hsome⟩
    · intro other hother hmem
      rcases List.mem_cons.mp hmem with hsame | hmem
      · have hsame' := statePath_injective hother (congrArg Prod.fst hsame) hle
        obtain ⟨last, hlast, hlower⟩ := h.found_le earlier hfound
        exact ⟨last, hlast, by omega⟩
      · exact h.entries_le other hother hmem

theorem visitEntries_highest (entries : List (FileName × Bool)) (found : Option (Nat × FileName))
    (s : Machine FileName UInt8) :
    Ends (visitEntries (K := K) (fun generation path highest =>
        pure (keepHigher generation path highest)) entries found) s
      (fun outcome _ => outcome.2 = .ok () → IsHighest entries found outcome.1)
      (fun _ _ => True) := by
  induction entries generalizing found s with
  | nil =>
      apply Ends.pure
      intro _
      refine ⟨Or.inl rfl, fun earlier hearlier => ⟨earlier, hearlier, Nat.le_refl _⟩, ?_⟩
      intro generation _ hmem
      cases hmem
  | cons entry rest ih =>
      obtain ⟨name, isFile⟩ := entry
      unfold visitEntries
      have hpart : Within (fun _ _ => True) (attempt (storage (do
            io "read state entry" touch
            io "read state entry type" touch)) :
          FileStoreM K (Except (PairwiseError K) Unit)) := fun _ => trivial
      apply Within.ends_bind hpart (fun _ _ _ => trivial)
      intro outcome t _
      cases outcome with
      | error error =>
          apply Ends.pure
          intro himpossible
          cases himpossible
      | ok _ =>
          dsimp only
          cases isFile with
          | false =>
              refine (ih found t).mono ?_ (fun _ _ _ => trivial)
              intro outcome _ h hok
              apply (h hok).skip
              intro generation _ himpossible
              cases himpossible
          | true =>
              cases hparse : parseGenerationFilename (K := K) name with
              | error error =>
                  apply Ends.pure
                  intro himpossible
                  cases himpossible
              | ok parsed =>
                  cases parsed with
                  | none =>
                      refine (ih found t).mono ?_ (fun _ _ _ => trivial)
                      intro outcome _ h hok
                      apply (h hok).skip
                      intro generation hle hname
                      have hstate := parseGenerationFilename_eq_some (K := K).mpr
                        ⟨congrArg Prod.fst hname, hle⟩
                      rw [hparse] at hstate
                      cases hstate
                  | some generation =>
                      obtain ⟨rfl, hle⟩ := parseGenerationFilename_eq_some.mp hparse
                      refine (ih _ t).mono ?_ (fun _ _ _ => trivial)
                      intro outcome _ h hok
                      exact (h hok).visit hle

theorem IsHighest.eq_shown {disk : Disk FileName UInt8} {rank : FileName → Nat}
    {highest : Option (Nat × FileName)} {shown : StoredValue Bytes}
    (h : IsHighest (disk.listing rank) none highest) (hshows : Shows disk shown) :
    highest = shown.payload.map (fun _ => (shown.generation, statePath shown.generation)) := by
  obtain ⟨hamong, -, hle⟩ := h
  have hfile : ∀ generation, generation ≤ u64Max →
      (statePath generation, true) ∈ disk.listing rank → generation ≤ shown.generation := by
    intro generation hbound hmem
    obtain ⟨file, hget⟩ := Disk.mem_listing_file.mp hmem
    by_contra hless
    exact hshows.top generation (Nat.lt_of_not_le hless) hbound file hget
  cases hpayload : shown.payload with
  | none =>
      rcases hamong with hnone | ⟨generation, hbound, hmem, -⟩
      · exact hnone
      · have hzero : generation = shown.generation := by
          have hlower := hfile generation hbound hmem
          have hunset := hshows.unset hpayload
          omega
        obtain ⟨file, hget⟩ := Disk.mem_listing_file.mp hmem
        have hholds := hshows.holds
        rw [← hzero, hget, hpayload] at hholds
        cases hholds
  | some payload =>
      have hholds := hshows.holds
      rw [hpayload] at hholds
      obtain ⟨last, hlast, hlower⟩ :=
        hle _ hshows.bounded (Disk.mem_listing_file.mpr ⟨_, hholds⟩)
      rcases hamong with hnone | ⟨generation, hbound, hmem, hsome⟩
      · rw [hlast] at hnone
        cases hnone
      · rw [hlast] at hsome
        cases hsome
        have hsame := Nat.le_antisymm (hfile generation hbound hmem) hlower
        rw [hlast, hsame]
        rfl

/-- The highest generation is the one that is shown. -/
theorem highestGenerationLocked_ends {s : Machine FileName UInt8} {shown : StoredValue Bytes}
    (h : Shows s.disk shown) :
    Ends (highestGenerationLocked (K := K)) s
      (fun highest _ => highest = shown.payload.map (fun _ =>
        (shown.generation, statePath shown.generation)))
      (fun _ _ => True) := by
  have hentries : Ends (attempt (storage (io "read state directory" readDir)) :
        FileStoreM K (Except (PairwiseError K) (List (FileName × Bool)))) s
      (fun outcome _ => ∀ entries, outcome = .ok entries →
        ∃ rank, entries = s.disk.listing rank) (fun _ _ => True) := by
    apply Ends.attempt
    apply Ends.mapFailure
    apply Ends.mapFailure
    refine (inspect_ends _ s).mono ?_ ?_
    · rintro entries t ⟨hlisting, -⟩ other hother
      cases hother
      cases hlisting
      exact ⟨_, rfl⟩
    · intro interrupt t _
      cases interrupt with
      | killed => exact Or.inl ⟨rfl, trivial⟩
      | failed error =>
          refine Or.inr ⟨_, rfl, ?_⟩
          intro entries himpossible
          cases himpossible
  unfold highestGenerationLocked visitGenerationsLocked
  apply Ends.bind
  apply Ends.bind
  refine hentries.mono ?_ (fun _ _ _ => trivial)
  intro outcome t houtcome
  cases outcome with
  | error error =>
      apply Ends.pure
      exact Ends.bind (Ends.throw trivial)
  | ok entries =>
      obtain ⟨rank, rfl⟩ := houtcome entries rfl
      refine (visitEntries_highest _ none t).mono ?_ (fun _ _ _ => trivial)
      intro outcome u hhighest
      obtain ⟨highest, result⟩ := outcome
      cases result with
      | error error => exact Ends.bind (Ends.throw trivial)
      | ok _ =>
          apply Ends.bind
          apply Ends.pure
          apply Ends.pure
          exact (hhighest rfl).eq_shown h

end Highest

section Methods

theorem syncDirectory_ends (s : Machine FileName UInt8) :
    Ends syncDirectory s (fun _ t => t.disk.replaced = [] ∧ Disk.Keeps (fun _ => True) s.disk t.disk)
      (fun _ t => Disk.Keeps (fun _ => True) s.disk t.disk) := by
  have hkeeps := Ends.of_moves
    (syncDirectory_within (Disk.Keeps.bound (N := FileName) (B := UInt8) fun _ => True)) s
  have hsynced : Ends syncDirectory s (fun _ t => t.disk.replaced = []) (fun _ _ => True) := by
    apply Within.ends_bind (r := fun _ _ => True) (fun _ => trivial) (fun _ _ _ => trivial)
    intro _ mid _
    apply Ends.mapFailure
    refine (change_ends _ mid).mono ?_ (fun _ _ _ => trivial)
    intro _ t heffect
    rw [← Except.ok.inj heffect]
  exact (hsynced.and hkeeps).mono (fun _ _ h => h) (fun _ _ h => h.2)

theorem readFile_ends {β : Type} {f : Bytes → Except IoError β} {s : Machine FileName UInt8}
    {path : FileName} {payload : Bytes}
    (hfile : s.disk.entries.get? path = some (settled payload)) :
    Ends (readFile path f) s
      (fun b t => f payload = .ok b ∧ t.disk.entries.get? path = some (settled payload))
      (fun _ _ => True) := by
  refine (inspect_ends _ s).mono ?_ (fun _ _ _ => trivial)
  rintro b t ⟨hresult, hdisk⟩
  rw [hfile] at hresult
  rw [hdisk]
  exact ⟨hresult, hfile⟩

theorem readStateLocked_ends {s : Machine FileName UInt8} {path : FileName} {payload : Bytes}
    (hfile : s.disk.entries.get? path = some (settled payload)) :
    Ends (readStateLocked (K := K) path) s (fun content _ => content = payload)
      (fun _ _ => True) := by
  have hr : Disk.Bound (Disk.Keeps (N := FileName) (B := UInt8) fun _ => True) :=
    Disk.Keeps.bound _
  apply Within.ends_bind (readFile_within hr _ _ _) (fun _ _ _ => trivial)
  intro _ t ht
  apply Ends.bind
  apply Ends.mapFailure
  apply Ends.mapFailure
  refine (readFile_ends ((ht.holds path trivial).trans hfile)).mono ?_ (fun _ _ _ => trivial)
  rintro length u ⟨hlength, hfile⟩
  cases hlength
  apply Within.ends_bind (check_within hr _) (fun _ _ _ => trivial)
  intro _ t ht
  have hfile := (ht.holds path trivial).trans hfile
  apply Within.ends_bind (check_within hr _) (fun _ _ _ => trivial)
  intro _ u hu
  have hfile := (hu.holds path trivial).trans hfile
  apply Within.ends_bind (storage_within (touch_within hr _)) (fun _ _ _ => trivial)
  intro _ v hv
  apply Ends.bind
  apply Ends.mapFailure
  refine (readFile_ends ((hv.holds path trivial).trans hfile)).mono ?_ (fun _ _ _ => trivial)
  rintro content w ⟨hcontent, -⟩
  rw [if_neg (Nat.lt_irrefl _), List.take_length] at hcontent
  cases hcontent
  have hrest : ∀ {β : Type} {f : Bytes → Except IoError β} {operation : String}
      {rest : β → FileStoreM K Bytes} {m : Machine FileName UInt8},
      (∀ b m, Ends (rest b) m (fun content _ => content = payload) (fun _ _ => True)) →
      Ends (storage (io operation (readFile path f)) >>= rest) m
        (fun content _ => content = payload) (fun _ _ => True) := by
    intro β f operation rest m h
    exact Within.ends_bind (readFile_within hr _ _ _) (fun _ _ _ => trivial) (fun b t _ => h b t)
  apply hrest
  intro extra _
  apply hrest
  intro finalLength _
  apply Within.ends_bind (check_within hr _) (fun _ _ _ => trivial)
  intro _ _ _
  exact Ends.pure rfl

/-- A load that returns gives the payload that is shown. -/
theorem load_ends {s : Machine FileName UInt8} {shown : StoredValue Bytes}
    (h : Shows s.disk shown) :
    Ends (load (K := K)) s (fun found _ => found = shown.payload) (fun _ _ => True) := by
  have hr := Disk.Keeps.bound (N := FileName) (B := UInt8) IsState
  apply Within.ends_bind (storage_within acquireLock_keeps) (fun _ _ _ => trivial)
  intro _ t ht
  apply Within.ends_bind recover_keeps (fun _ _ _ => trivial)
  intro _ u hu
  have hshows := (h.keeps ht).keeps hu
  have hhighest := (highestGenerationLocked_ends (K := K) hshows).and
    (Ends.of_moves (highestGenerationLocked_within hr) u)
  apply Ends.bind
  refine hhighest.mono ?_ (fun _ _ _ => trivial)
  rintro highest v ⟨rfl, hv⟩
  have hholds := (hshows.keeps hv).holds
  cases hpayload : shown.payload with
  | none => exact Ends.pure rfl
  | some payload =>
      rw [hpayload] at hholds
      apply Ends.bind
      refine (readStateLocked_ends hholds).mono ?_ (fun _ _ _ => trivial)
      rintro content w rfl
      exact Ends.pure rfl

theorem load_keeps : Within (Disk.Keeps IsState) (load : FileStoreM K (Option Bytes)) := by
  have hr := Disk.Keeps.bound (N := FileName) (B := UInt8) IsState
  apply Within.bind hr (storage_within acquireLock_keeps)
  intro _
  apply Within.bind hr recover_keeps
  intro _
  apply Within.bind hr (highestGenerationLocked_within hr)
  intro highest
  cases highest with
  | none => exact Within.pure hr _
  | some found =>
      apply Within.bind hr (readStateLocked_within hr _)
      intro _
      exact Within.pure hr _

/-- A store that is opened knows its state for certain. -/
theorem new_ends {s : Machine FileName UInt8} {tried : Nat → Bytes → Prop}
    {base shown : StoredValue Bytes} (h : Register s.disk tried base shown) :
    Ends (new (K := K)) s (fun _ t => Register t.disk tried shown shown)
      (fun _ t => Register t.disk tried base shown) := by
  have hr := Disk.Keeps.bound (N := FileName) (B := UInt8) IsState
  apply Within.ends_bind (storage_within (touch_within hr _)) (fun _ _ hkeeps => h.keeps hkeeps)
  intro _ t ht
  have h := h.keeps ht
  apply Within.ends_bind (storage_within (touch_within hr _)) (fun _ _ hkeeps => h.keeps hkeeps)
  intro _ u hu
  have h := h.keeps hu
  apply Within.ends_bind (storage_within acquireLock_keeps) (fun _ _ hkeeps => h.keeps hkeeps)
  intro _ v hv
  have h := h.keeps hv
  apply Ends.bind
  apply Ends.mapFailure
  refine (syncDirectory_ends v).mono ?_ ?_
  · rintro _ w ⟨hsynced, hkeeps⟩
    have h := h.keeps (hkeeps.mono fun _ _ => trivial)
    exact (Ends.of_moves recover_keeps w).mono (fun _ _ hkept => (h.settle hsynced).keeps hkept)
      (fun _ _ hkept => h.keeps hkept)
  · intro _ w hkeeps
    exact h.keeps (hkeeps.mono fun _ _ => trivial)

/-! A commit. -/

/-- What a commit that fails reports when its rollback failed as well. -/
def RollbackFailed (interrupt : Interrupt (PairwiseError K)) : Prop :=
  ∃ cause errors, errors ≠ [] ∧ interrupt = .failed (.storage (rollbackError cause errors))

theorem writeTemporary_ends {s : Machine FileName UInt8} {temporary : FileName} (payload : Bytes)
    (hname : ¬IsState temporary) :
    Ends (writeTemporary temporary payload) s
      (fun _ t => t.disk.entries.get? temporary = some (settled payload) ∧
        Disk.Keeps IsState s.disk t.disk)
      (fun _ t => Disk.Keeps IsState s.disk t.disk) := by
  have hkeeps := Ends.of_moves (writeTemporary_within (Disk.Keeps.bound IsState)
    (Disk.Keeps.put hname) (Disk.Keeps.setFile hname) payload) s
  have hfile : Ends (writeTemporary temporary payload) s
      (fun _ t => t.disk.entries.get? temporary = some (settled payload)) (fun _ _ => True) := by
    apply Ends.bind
    apply Ends.mapFailure
    refine (change_ends _ s).mono ?_ (fun _ _ _ => trivial)
    intro _ t hcreate
    have hcreated : t.disk.entries.get? temporary = some (.file ⟨[], false⟩) := by
      split at hcreate
      · rw [← Except.ok.inj hcreate]
        exact SortedMap.get?_insert_self _ _ _
      · cases hcreate
    apply Ends.bind
    apply Ends.mapFailure
    refine (call_ends _ _ t).mono ?_ (fun _ _ _ => trivial)
    intro _ u hwrite
    have hwritten : u.disk.entries.get? temporary = some (.file ⟨payload, false⟩) := by
      unfold Disk.append at hwrite
      rw [hcreated] at hwrite
      rw [← (Prod.mk.inj hwrite).2]
      exact SortedMap.get?_insert_self _ _ _
    apply Ends.mapFailure
    refine (change_ends _ u).mono ?_ (fun _ _ _ => trivial)
    intro _ v hsync
    rw [hwritten] at hsync
    rw [← Except.ok.inj hsync]
    exact SortedMap.get?_insert_self _ _ _
  exact (hfile.and hkeeps).mono (fun _ _ h => h) (fun _ _ h => h.2)

/-- Before a state is published, a rollback changes no state. -/
theorem abandon_ends {s : Machine FileName UInt8} {temporary : FileName} {α : Type}
    (hname : ¬IsState temporary) (cause : String) :
    Ends (do fail (← rollbackPublishLocked temporary none cause) : StorageM α) s (fun _ _ => False)
      (fun _ t => Disk.Keeps IsState s.disk t.disk) := by
  have hkeeps : Within (Disk.Keeps IsState) (rollbackPublishLocked temporary none cause) := by
    apply rollbackPublishLocked_within (Disk.Keeps.bound _) (Disk.Keeps.remove hname)
    intro path himpossible
    cases himpossible
  apply Within.ends_bind hkeeps (fun _ _ h => h)
  intro message t ht
  exact Ends.throw ht

theorem publishTemporaryLocked_ends {s : Machine FileName UInt8} {temporary destination : FileName}
    {payload : Bytes} (hname : ¬IsState temporary)
    (hfile : s.disk.entries.get? temporary = some (settled payload)) :
    Ends (publishTemporaryLocked temporary destination) s
      (fun _ t => s.disk.entries.get? destination = none ∧
        t.disk = (s.disk.remove temporary).put destination (settled payload))
      (fun _ t => Disk.Keeps IsState s.disk t.disk) := by
  have habandon : ∀ {t : Machine FileName UInt8} {returns : Unit → Machine FileName UInt8 → Prop}
      (cause : String), t.disk = s.disk →
      Ends (do fail (← rollbackPublishLocked temporary none cause)) t returns
        (fun _ u => Disk.Keeps IsState s.disk u.disk) := by
    intro t returns cause hdisk
    rw [← hdisk]
    exact (abandon_ends hname cause).mono (fun _ _ himpossible => himpossible.elim)
      (fun _ _ h => h)
  apply Ends.bind
  apply Ends.attempt
  apply Ends.mapFailure
  refine (inspect_ends _ s).mono ?_ ?_
  · rintro found t ⟨hfound, hdisk⟩
    cases hfound
    cases hentry : s.disk.entries.get? destination with
    | some node => exact habandon _ hdisk
    | none =>
        apply Ends.bind
        apply Ends.attempt
        apply Ends.mapFailure
        refine (change_ends _ t).mono ?_ ?_
        · intro _ u hrename
          apply Ends.pure
          rw [hdisk, hfile, settled] at hrename
          dsimp only at hrename
          rw [hentry] at hrename
          exact ⟨rfl, (Except.ok.inj hrename).symm⟩
        · rintro interrupt u ⟨hfailed, -⟩
          rw [hdisk] at hfailed
          cases interrupt with
          | killed =>
              refine Or.inl ⟨rfl, ?_⟩
              rw [hfailed]
              exact Disk.Keeps.refl _
          | failed error => exact Or.inr ⟨_, rfl, habandon _ hfailed⟩
  · intro interrupt t hdisk
    cases interrupt with
    | killed =>
        refine Or.inl ⟨rfl, ?_⟩
        rw [hdisk]
        exact Disk.Keeps.refl _
    | failed error => exact Or.inr ⟨_, rfl, habandon _ hdisk⟩

end Methods

section Commit

/-- After a state is published, it may go again, and no other state changes. -/
def Retracts (generation : Nat) (s t : Disk FileName UInt8) : Prop :=
  Disk.Keeps (fun name => IsState name ∧ name ≠ statePath generation) s t ∧
    Disk.Drops IsState s t

theorem retracts_bound (generation : Nat) : Disk.Bound (Retracts generation) :=
  (Disk.Keeps.bound _).and (Disk.Drops.bound _)

theorem Retracts.of_keeps {generation : Nat} {s t : Disk FileName UInt8}
    (h : Disk.Keeps IsState s t) : Retracts generation s t :=
  ⟨h.mono fun _ hname => hname.1, ⟨fun name hname => Or.inl (h.holds name hname),
    fun name hname node => h.mayHold name hname (some node)⟩⟩

/-- What of a commit of `payload` may come back, beside what was tried before. -/
def orTried (tried : Nat → Bytes → Prop) (generation : Nat) (payload : Bytes) :
    Nat → Bytes → Prop :=
  fun other content => tried other content ∨ other = generation ∧ content = payload

section Published

variable {before : Disk FileName UInt8} {s t : Machine FileName UInt8}
  {tried : Nat → Bytes → Prop} {base shown : StoredValue Bytes} {generation : Nat}
  {payload : Bytes} {temporary : FileName}

/-- A state is published beside the one that was shown. -/
structure Published (before : Disk FileName UInt8) (generation : Nat) (payload : Bytes)
    (disk : Disk FileName UInt8) : Prop where
  keeps : Disk.Keeps (fun name => IsState name ∧ name ≠ statePath generation) before disk
  holds : disk.entries.get? (statePath generation) = some (settled payload) ∨
    disk.entries.get? (statePath generation) = none
  mayHold : ∀ node, disk.MayHold (statePath generation) (some node) →
    node = settled payload ∨ before.MayHold (statePath generation) (some node)

theorem Published.of_put (hname : ¬IsState temporary) :
    Published before generation payload
      ((before.remove temporary).put (statePath generation) (settled payload)) := by
  refine ⟨?_, Or.inl (SortedMap.get?_insert_self _ _ _), ?_⟩
  · exact ((Disk.Keeps.remove hname before).mono fun _ h => h.1).trans
      (Disk.Keeps.put (fun h => h.2 rfl) _ _)
  · intro node hnode
    rcases Disk.mayHold_put_self hnode with hsame | hbefore
    · exact Or.inl (Option.some.inj hsame)
    · refine Or.inr ?_
      by_cases hsame : statePath generation = temporary
      · rw [← hsame] at hbefore
        rcases Disk.mayHold_remove_self hbefore with himpossible | hbefore
        · cases himpossible
        · exact hbefore
      · exact (Disk.mayHold_remove_ne hsame).mp hbefore

theorem Published.retracts {disk next : Disk FileName UInt8}
    (h : Published before generation payload disk) (hle : generation ≤ u64Max)
    (hretracts : Retracts generation disk next) : Published before generation payload next := by
  have hstate : IsState (statePath generation) := ⟨generation, hle, rfl⟩
  refine ⟨h.keeps.trans hretracts.1, ?_, ?_⟩
  · rcases hretracts.2.holds _ hstate with hsame | hnone
    · rw [hsame]
      exact h.holds
    · exact Or.inr hnone
  · intro node hnode
    exact h.mayHold node (hretracts.2.mayHold _ hstate node hnode)

variable (hregister : Register before tried base shown) (hnext : shown.generation + 1 = generation)
  (hle : generation ≤ u64Max)
include hregister hnext hle

/-- The folder shows the state, or what it showed before it was published. -/
theorem Published.register {disk : Disk FileName UInt8}
    (h : Published before generation payload disk) :
    ∃ found, (found = shown ∨ found = ⟨generation, some payload⟩) ∧
      Register disk (orTried tried generation payload) base found ∧
      (disk.entries.get? (statePath generation) = some (settled payload) →
        found = ⟨generation, some payload⟩) ∧
      (disk.entries.get? (statePath generation) = none → found = shown) := by
  have hless : base.generation < generation := by
    have := hregister.le
    omega
  have hfile : ∀ file, disk.MayHold (statePath generation) (some (.file file)) →
      file.synced = true ∧ orTried tried generation payload generation file.content := by
    intro file hmay
    rcases h.mayHold _ hmay with hsame | hbefore
    · cases hsame
      exact ⟨rfl, Or.inr ⟨rfl, rfl⟩⟩
    · obtain ⟨hsynced, htried⟩ := hregister.recovers.above generation hless hle file hbefore
      exact ⟨hsynced, Or.inl htried⟩
  have hother : ∀ other, other ≠ generation → other ≤ u64Max →
      disk.entries.get? (statePath other) = before.entries.get? (statePath other) := by
    intro other hne hbound
    exact h.keeps.holds _ ⟨⟨other, hbound, rfl⟩, fun hsame =>
      hne (statePath_injective hbound hsame hle)⟩
  rcases h.holds with hsome | hnone
  · refine ⟨⟨generation, some payload⟩, Or.inr rfl, ?_, fun _ => rfl, ?_⟩
    · refine hregister.beside (fun _ _ => Or.inl) hless h.keeps hfile ⟨hsome, ?_, hle, ?_⟩
        (Nat.le_of_lt hless) hle
      · intro later hlater hbound file
        dsimp only at hlater
        rw [hother later (by omega) hbound]
        exact hregister.shows.top later (by omega) hbound file
      · intro himpossible
        cases himpossible
    · intro hnone
      rw [hsome] at hnone
      cases hnone
  · refine ⟨shown, Or.inl rfl, ?_, ?_, fun _ => rfl⟩
    · refine hregister.beside (fun _ _ => Or.inl) hless h.keeps hfile
        ⟨?_, ?_, hregister.shows.bounded, hregister.shows.unset⟩ hregister.le hle
      · rw [hother _ (by omega) hregister.shows.bounded]
        exact hregister.shows.holds
      · intro later hlater hbound file
        by_cases hsame : later = generation
        · rw [hsame, hnone]
          exact fun himpossible => by cases himpossible
        · rw [hother later hsame hbound]
          exact hregister.shows.top later hlater hbound file
    · intro hsome
      rw [hnone] at hsome
      cases hsome

/-- Taken back and synced, it may not come back. -/
theorem Published.retracted {disk : Disk FileName UInt8}
    (h : Published before generation payload disk)
    (hnone : disk.entries.get? (statePath generation) = none) (hsynced : disk.replaced = []) :
    Register disk tried base shown := by
  obtain ⟨found, -, hfound, -, hshown⟩ := h.register hregister hnext hle
  have hsame := hshown hnone
  subst hsame
  have hless : base.generation < generation := by
    have := hregister.le
    omega
  refine hregister.beside (fun _ _ h => h) hless h.keeps ?_ hfound.shows hfound.le hle
  intro file hmay
  rw [Disk.mayHold_of_synced hsynced, hnone] at hmay
  cases hmay

end Published

theorem rollbackRemove_ends (operation : String) (path : FileName) (s : Machine FileName UInt8) :
    Ends (rollbackRemove operation path) s
      (fun failure t => failure = none → t.disk.entries.get? path = none)
      (fun interrupt _ => interrupt = .killed) := by
  apply Ends.bind
  apply Ends.attempt
  refine (change_ends _ s).mono ?_ ?_
  · intro _ t hremove
    apply Ends.pure
    intro _
    split at hremove
    · cases hremove
    · rw [← Except.ok.inj hremove]
      exact SortedMap.get?_erase_self _ _
    · cases hremove
  · rintro interrupt t ⟨hdisk, hwhy⟩
    cases interrupt with
    | killed => exact Or.inl ⟨rfl, rfl⟩
    | failed error =>
        refine Or.inr ⟨error, rfl, ?_⟩
        dsimp only
        split
        · rename_i hkind
          apply Ends.pure
          intro _
          rcases hwhy with (himpossible | ⟨message, hmessage⟩) | ⟨error', herror, hremove⟩
          · cases himpossible
          · cases hmessage
            cases hkind
          · cases herror
            rw [hdisk]
            split at hremove
            · rename_i hentry
              exact hentry
            · cases hremove
            · cases hremove
              cases hkind
        · apply Ends.pure
          intro himpossible
          cases himpossible

theorem rollbackPublishLocked_ends {generation : Nat} {temporary : FileName}
    (hle : generation ≤ u64Max) (hname : ¬IsState temporary) (cause : String)
    (s : Machine FileName UInt8) :
    Ends (rollbackPublishLocked temporary (some (statePath generation)) cause) s
      (fun message t => Retracts generation s.disk t.disk ∧
        ∃ errors, message = rollbackError cause errors ∧ (errors = [] →
          t.disk.entries.get? (statePath generation) = none ∧ t.disk.replaced = []))
      (fun interrupt t => interrupt = .killed ∧ Retracts generation s.disk t.disk) := by
  have hr := retracts_bound generation
  have htrans := hr.trans
  have hdestination : ∀ d, Retracts generation d (d.remove (statePath generation)) :=
    fun d => ⟨Disk.Keeps.remove (fun h => h.2 rfl) d, Disk.Drops.remove d _⟩
  have htemporary : ∀ d, Retracts generation d (d.remove temporary) :=
    fun d => Retracts.of_keeps (Disk.Keeps.remove hname d)
  apply Ends.bind
  refine ((rollbackRemove_ends _ _ s).and (Ends.of_moves
    (rollbackRemove_within hr hdestination) s)).mono ?_ (fun _ _ h => h)
  rintro published t ⟨hpublished, ht⟩
  apply Ends.bind
  refine ((rollbackRemove_ends _ _ t).and (Ends.of_moves
    (rollbackRemove_within hr htemporary) t)).mono ?_
    (fun _ u ⟨hkilled, hu⟩ => ⟨hkilled, htrans _ _ _ ht hu⟩)
  rintro unfinished u ⟨-, hu⟩
  apply Ends.bind
  apply Ends.attempt
  have hsync : ∀ {v : Disk FileName UInt8}, Disk.Keeps (fun _ => True) u.disk v →
      Retracts generation s.disk v := fun hv =>
    htrans _ _ _ ht (htrans _ _ _ hu (Retracts.of_keeps (hv.mono fun _ _ => trivial)))
  refine (syncDirectory_ends u).mono ?_ ?_
  · rintro _ v ⟨hsynced, hv⟩
    apply Ends.pure
    refine ⟨hsync hv, _, rfl, ?_⟩
    intro hnone
    refine ⟨?_, hsynced⟩
    have hpublished := hpublished (by
      cases published with
      | none => rfl
      | some message => cases hnone)
    rcases (htrans _ _ _ hu (Retracts.of_keeps (hv.mono fun _ _ => trivial))).2.holds
      (statePath generation) ⟨generation, hle, rfl⟩ with hsame | hgone
    · rw [hsame]
      exact hpublished
    · exact hgone
  · intro interrupt v hv
    cases interrupt with
    | killed => exact Or.inl ⟨rfl, rfl, hsync hv⟩
    | failed message =>
        refine Or.inr ⟨message, rfl, ?_⟩
        apply Ends.pure
        refine ⟨hsync hv, _, rfl, ?_⟩
        intro himpossible
        exact absurd himpossible (by simp)

/-- Where a commit of `payload` leaves the register when it does not return. -/
inductive Undone (tried : Nat → Bytes → Prop) (base shown : StoredValue Bytes) (generation : Nat)
    (payload : Bytes) (interrupt : Interrupt (PairwiseError K)) (disk : Disk FileName UInt8) : Prop
  | unchanged (h : Register disk tried base shown)
  | unfinished (hnext : shown.generation + 1 = generation)
      (hwhy : interrupt = .killed ∨ RollbackFailed interrupt) (found : StoredValue Bytes)
      (hfound : found = shown ∨ found = ⟨generation, some payload⟩)
      (h : Register disk (orTried tried generation payload) base found)
  | finished (hnext : shown.generation + 1 = generation) (hwhy : interrupt = .killed)
      (h : Register disk (orTried tried generation payload) ⟨generation, some payload⟩
        ⟨generation, some payload⟩)

theorem trims_register {generation : Nat} {disk next : Disk FileName UInt8}
    {tried : Nat → Bytes → Prop} {base shown : StoredValue Bytes}
    (h : Register disk tried base shown) (hle : generation ≤ base.generation)
    (hkeeps : Disk.Keeps (fun name => ∃ kept, generation ≤ kept ∧ kept ≤ u64Max ∧
      name = statePath kept) disk next)
    (hdrops : Disk.Drops IsState disk next) : Register next tried base shown := by
  have hshown := h.le
  refine ⟨⟨?_, ?_⟩, ⟨?_, ?_, h.shows.bounded, h.shows.unset⟩, h.le, h.unset⟩
  · intro node hnode
    exact h.recovers.based node (hkeeps.mayHold _ ⟨_, hle, h.base_bounded, rfl⟩ node hnode)
  · intro later hless hbound file hfile
    exact h.recovers.above later hless hbound file
      (hdrops.mayHold _ ⟨later, hbound, rfl⟩ _ hfile)
  · rw [hkeeps.holds _ ⟨_, by omega, h.shows.bounded, rfl⟩]
    exact h.shows.holds
  · intro later hless hbound file
    rw [hkeeps.holds _ ⟨later, by omega, hbound, rfl⟩]
    exact h.shows.top later hless hbound file

/-- Removing the generations before one keeps the others. -/
def Trims (generation : Nat) (s t : Disk FileName UInt8) : Prop :=
  Disk.Keeps (fun name => ∃ kept, generation ≤ kept ∧ kept ≤ u64Max ∧ name = statePath kept) s t ∧
    Disk.Drops IsState s t

theorem trims_bound (generation : Nat) : Disk.Bound (Trims generation) :=
  (Disk.Keeps.bound _).and (Disk.Drops.bound _)

theorem removeOlderGenerationsLocked_trims (generation : Nat) :
    Within (Trims generation) (removeOlderGenerationsLocked generation : FileStoreM K Unit) := by
  apply removeOlderGenerationsLocked_within (trims_bound generation)
  intro stored hless hbound s
  refine ⟨Disk.Keeps.remove ?_ s, Disk.Drops.remove s _⟩
  rintro ⟨kept, hkept, hle, hname⟩
  have := statePath_injective hbound hname hle
  omega

theorem Trims.of_keeps {generation : Nat} {s t : Disk FileName UInt8}
    (h : Disk.Keeps IsState s t) : Trims generation s t := by
  refine ⟨h.mono ?_, ⟨fun name hname => Or.inl (h.holds name hname),
    fun name hname node => h.mayHold name hname (some node)⟩⟩
  rintro name ⟨kept, -, hle, hname⟩
  exact ⟨kept, hle, hname⟩

theorem cleanupAfterDurablePublishLocked_trims {temporary : FileName} (generation : Nat)
    (hname : ¬IsState temporary) : Within (Trims generation)
      (cleanupAfterDurablePublishLocked temporary generation : FileStoreM K Unit) := by
  have hr := trims_bound generation
  apply Within.bind hr
  · apply Within.attempt
    apply storage_within
    exact discardTemporaryLocked_within hr
      (fun s => Trims.of_keeps (Disk.Keeps.remove hname s))
  intro temporaryResult
  apply Within.bind hr (Within.attempt (removeOlderGenerationsLocked_trims generation))
  intro generationsResult
  cases temporaryResult with
  | error error => exact Within.fail hr _
  | ok _ => exact check_within hr _

section Published

variable {before : Disk FileName UInt8} {tried : Nat → Bytes → Prop}
  {base shown : StoredValue Bytes} {generation : Nat} {payload : Bytes} {temporary : FileName}

/-- From a published state on, a commit makes it certain or takes it back. -/
theorem settleState_ends (hregister : Register before tried base shown)
    (hnext : shown.generation + 1 = generation) (hle : generation ≤ u64Max)
    (hname : ¬IsState temporary) {s : Machine FileName UInt8}
    (hpublished : Published before generation payload s.disk)
    (hholds : s.disk.entries.get? (statePath generation) = some (settled payload)) :
    Ends (settleState (K := K) generation temporary (statePath generation)) s
      (fun _ t => Register t.disk (orTried tried generation payload) ⟨generation, some payload⟩
        ⟨generation, some payload⟩)
      (fun interrupt t => Undone tried base shown generation payload interrupt t.disk) := by
  have hundone : ∀ {interrupt : Interrupt (PairwiseError K)} {disk : Disk FileName UInt8},
      interrupt = .killed ∨ RollbackFailed interrupt → Retracts generation s.disk disk →
      Undone tried base shown generation payload interrupt disk := by
    intro interrupt disk hwhy hretracts
    obtain ⟨found, hfound, h, -⟩ :=
      (hpublished.retracts hle hretracts).register hregister hnext hle
    exact Undone.unfinished hnext hwhy found hfound h
  apply Ends.bind
  apply Ends.attempt
  refine (syncDirectory_ends s).mono ?_ ?_
  · rintro _ t ⟨hsynced, ht⟩
    have hkeeps : Disk.Keeps IsState s.disk t.disk := ht.mono fun _ _ => trivial
    obtain ⟨found, -, h, hsome, -⟩ :=
      (hpublished.retracts hle (Retracts.of_keeps hkeeps)).register hregister hnext hle
    have hentry : t.disk.entries.get? (statePath generation) = some (settled payload) := by
      rw [ht.holds _ trivial]
      exact hholds
    have hfound := hsome hentry
    subst hfound
    have hsettled := h.settle hsynced
    have hcleaned : ∀ {u : Machine FileName UInt8}, Trims generation t.disk u.disk →
        Register u.disk (orTried tried generation payload) ⟨generation, some payload⟩
          ⟨generation, some payload⟩ := fun hu =>
      trims_register hsettled (Nat.le_refl _) hu.1 hu.2
    apply Ends.bind
    apply Ends.attempt
    refine (Ends.of_moves
      (cleanupAfterDurablePublishLocked_trims (K := K) generation hname) t).mono ?_ ?_
    · intro _ u hu
      exact Ends.pure (hcleaned hu)
    · intro interrupt u hu
      cases interrupt with
      | killed => exact Or.inl ⟨rfl, Undone.finished hnext rfl (hcleaned hu)⟩
      | failed error => exact Or.inr ⟨error, rfl, Ends.pure (hcleaned hu)⟩
  · intro interrupt t ht
    have hretracts : Retracts generation s.disk t.disk :=
      Retracts.of_keeps (ht.mono fun _ _ => trivial)
    cases interrupt with
    | killed => exact Or.inl ⟨rfl, hundone (Or.inl rfl) hretracts⟩
    | failed cause =>
        refine Or.inr ⟨cause, rfl, ?_⟩
        apply Ends.mapFailure
        apply Ends.bind
        refine (rollbackPublishLocked_ends hle hname cause t).mono ?_ ?_
        · rintro message u ⟨hu, errors, hmessage, hnone⟩
          apply Ends.throw
          have hall := (retracts_bound generation).trans _ _ _ hretracts hu
          cases errors with
          | nil =>
              obtain ⟨hgone, hsynced⟩ := hnone rfl
              exact Undone.unchanged ((hpublished.retracts hle hall).retracted hregister hnext hle
                hgone hsynced)
          | cons error errors =>
              refine hundone (Or.inr ⟨cause, error :: errors, List.cons_ne_nil _ _, ?_⟩) hall
              rw [hmessage]
              rfl
        · rintro interrupt u ⟨hkilled, hu⟩
          have hall := (retracts_bound generation).trans _ _ _ hretracts hu
          refine hundone (Or.inl ?_) hall
          rw [hkilled]
          rfl

end Published

theorem check_ends {α : Type} (result : Except (PairwiseError K) α) (s : Machine FileName UInt8) :
    Ends (check result) s (fun a t => result = .ok a ∧ t = s) (fun _ t => t = s) := by
  cases result with
  | error error => exact Ends.throw rfl
  | ok a => exact Ends.pure ⟨rfl, rfl⟩

theorem ensureCurrentGeneration_eq_ok {generation expected current : Nat}
    (h : ensureCurrentGeneration (K := K) generation expected current = .ok ()) :
    current = expected := by
  unfold ensureCurrentGeneration at h
  split at h
  · cases h
  · rename_i hsame
    exact not_not.mp hsame

theorem previousGeneration_eq_ok {generation expected : Nat}
    (h : previousGeneration (K := K) generation = .ok expected) : expected + 1 = generation := by
  unfold previousGeneration at h
  split at h
  · cases h
  · cases h
    omega

/-- A commit returns only from the generation before its own, and its state is then there for
certain. One that does not return changes nothing, unless the process is killed in it or its
rollback fails as well: then the folder shows either of the two states, and the one before is
still there for certain or the new one is. -/
theorem commit_ends {s : Machine FileName UInt8} {tried : Nat → Bytes → Prop}
    {base shown : StoredValue Bytes} (h : Register s.disk tried base shown) {generation : Nat}
    (hle : generation ≤ u64Max) (payload : Bytes) (nonce : Uuid) :
    Ends (commit (K := K) generation payload nonce) s
      (fun _ t => shown.generation + 1 = generation ∧
        Register t.disk (orTried tried generation payload) ⟨generation, some payload⟩
          ⟨generation, some payload⟩)
      (fun interrupt t => Undone tried base shown generation payload interrupt t.disk) := by
  have hr := Disk.Keeps.bound (N := FileName) (B := UInt8) IsState
  have hname := temporary_not_state generation nonce
  have hunchanged : ∀ {before after : Machine FileName UInt8}
      {interrupt : Interrupt (PairwiseError K)}, Register before.disk tried base shown →
      Disk.Keeps IsState before.disk after.disk →
      Undone tried base shown generation payload interrupt after.disk :=
    fun hregister hkeeps => Undone.unchanged (hregister.keeps hkeeps)
  apply Within.ends_bind (check_within hr _) (fun _ _ hkeeps => hunchanged h hkeeps)
  intro _ s₁ hkeeps
  have h := h.keeps hkeeps
  apply Ends.bind
  refine (check_ends _ s₁).mono ?_ ?_
  swap
  · rintro interrupt t rfl
    exact hunchanged h (Disk.Keeps.refl _)
  rintro expected t ⟨hprevious, rfl⟩
  apply Within.ends_bind (storage_within acquireLock_keeps) (fun _ _ hkeeps => hunchanged h hkeeps)
  intro _ s₂ hkeeps
  have h := h.keeps hkeeps
  apply Within.ends_bind recover_keeps (fun _ _ hkeeps => hunchanged h hkeeps)
  intro _ s₃ hkeeps
  have h := h.keeps hkeeps
  apply Ends.bind
  refine ((highestGenerationLocked_ends (K := K) h.shows).and
    (Ends.of_moves (highestGenerationLocked_within hr) s₃)).mono ?_
    (fun _ _ hend => hunchanged h hend.2)
  rintro highest s₄ ⟨hhighest, hkeeps⟩
  have h := h.keeps hkeeps
  apply Ends.bind
  refine (check_ends _ s₄).mono ?_ ?_
  swap
  · rintro interrupt t rfl
    exact hunchanged h (Disk.Keeps.refl _)
  rintro _ t ⟨hcurrent, rfl⟩
  have hnext : shown.generation + 1 = generation := by
    have hexpected := ensureCurrentGeneration_eq_ok hcurrent
    have hsucc := previousGeneration_eq_ok hprevious
    rw [hhighest] at hexpected
    cases hpayload : shown.payload with
    | none =>
        rw [hpayload] at hexpected
        have hzero := h.shows.unset hpayload
        simp only [Option.map_none, Option.getD_none] at hexpected
        omega
    | some _ =>
        rw [hpayload] at hexpected
        simp only [Option.map_some, Option.getD_some] at hexpected
        omega
  apply Ends.bind
  apply Ends.attempt
  refine (writeTemporary_ends payload hname).mono ?_ ?_
  · rintro _ s₅ ⟨hfile, hkeeps⟩
    have h := h.keeps hkeeps
    apply Ends.bind
    apply Ends.mapFailure
    refine (publishTemporaryLocked_ends hname hfile).mono ?_ (fun _ _ hkeeps => hunchanged h hkeeps)
    rintro _ s₆ ⟨hnone, hdisk⟩
    have hpublished : Published s₅.disk generation payload _ := Published.of_put hname
    rw [← hdisk] at hpublished
    have hholds : s₆.disk.entries.get? (statePath generation) = some (settled payload) := by
      rw [hdisk]
      exact SortedMap.get?_insert_self _ _ _
    exact (settleState_ends h hnext hle hname hpublished hholds).mono (fun _ _ h => ⟨hnext, h⟩)
      (fun _ _ h => h)
  · intro interrupt s₅ hkeeps
    cases interrupt with
    | killed => exact Or.inl ⟨rfl, hunchanged h hkeeps⟩
    | failed cause =>
        refine Or.inr ⟨cause, rfl, ?_⟩
        have h := h.keeps hkeeps
        apply Ends.mapFailure
        exact (abandon_ends hname cause).mono (fun _ _ himpossible => himpossible.elim)
          (fun _ _ hkeeps => hunchanged h hkeeps)

end Commit

/-- A file of the generation, or of a later one, is there for certain. -/
def KeptFrom (generation : Nat) (disk : Disk FileName UInt8) : Prop :=
  ∃ kept, generation ≤ kept ∧ kept ≤ u64Max ∧ ∃ file, ∀ node,
    disk.MayHold (statePath kept) node → node = some (.file file)

/-- A cleanup for a generation that is kept loses nothing. -/
theorem cleanup_register {s : Machine FileName UInt8} {tried : Nat → Bytes → Prop}
    {base shown : StoredValue Bytes} (h : Register s.disk tried base shown) {generation : Nat}
    (hkept : KeptFrom generation s.disk) :
    ∃ base' : StoredValue Bytes, Advances tried base base' ∧
      Register (exec (cleanup (K := K) generation) s).2.disk tried base' shown := by
  have hr := trims_bound generation
  have htrims : Within (Trims generation) (cleanup (K := K) generation) := by
    apply Within.bind hr
    · exact Within.attempt (Moves.mono acquireLock_keeps fun _ _ => Trims.of_keeps)
    intro lock
    cases lock with
    | error _ => exact Within.pure hr _
    | ok _ =>
        apply Within.bind hr (Within.attempt (removeOlderGenerationsLocked_trims generation))
        intro _
        exact Within.pure hr _
  have hmoved := htrims s
  obtain ⟨kept, hkept, hbound, file, hcertain⟩ := hkept
  by_cases hlower : generation ≤ base.generation
  · exact ⟨base, Or.inl rfl, trims_register h hlower hmoved.1 hmoved.2⟩
  · have hless : base.generation < kept := by omega
    obtain ⟨hraised, hadvances⟩ := h.raise hbound hless hcertain
    exact ⟨_, hadvances, trims_register hraised hkept hmoved.1 hmoved.2⟩

theorem Register.keptFrom {disk : Disk FileName UInt8} {tried : Nat → Bytes → Prop}
    {base shown : StoredValue Bytes} {payload : Bytes} (h : Register disk tried base shown)
    (hpayload : base.payload = some payload) : KeptFrom base.generation disk := by
  refine ⟨_, Nat.le_refl _, h.base_bounded, ⟨payload, true⟩, ?_⟩
  intro node hnode
  rw [h.recovers.based node hnode, hpayload]
  rfl

end FileStore

end NostrDoubleRatchet
