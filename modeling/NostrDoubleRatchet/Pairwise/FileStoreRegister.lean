import NostrDoubleRatchet.Pairwise.FileStore

/-!
The register that a folder of the file store stands for: a state that is there for certain, and
states of later generations whose publication was not finished. A change of other files keeps it,
a sync of the folder settles it, and after a loss of power it shows what was certain or a later
state that was tried.
-/

namespace NostrDoubleRatchet

namespace FileStore

open FaultyDisk

def IsState (name : FileName) : Prop := ∃ generation ≤ u64Max, name = statePath generation

def settled (payload : Bytes) : Node UInt8 := .file ⟨payload, true⟩

/-- Whatever comes back, it is `base`, or a state of a later generation that was tried. -/
structure Recovers (disk : Disk FileName UInt8) (tried : Nat → Bytes → Prop)
    (base : StoredValue Bytes) : Prop where
  based : ∀ node, disk.MayHold (statePath base.generation) node → node = base.payload.map settled
  above : ∀ generation, base.generation < generation → generation ≤ u64Max → ∀ file,
    disk.MayHold (statePath generation) (some (.file file)) →
      file.synced = true ∧ tried generation file.content

/-- The state of the highest generation that is there, or none. -/
structure Shows (disk : Disk FileName UInt8) (shown : StoredValue Bytes) : Prop where
  holds : disk.entries.get? (statePath shown.generation) = shown.payload.map settled
  top : ∀ generation, shown.generation < generation → generation ≤ u64Max → ∀ file,
    disk.entries.get? (statePath generation) ≠ some (.file file)
  bounded : shown.generation ≤ u64Max
  unset : shown.payload = none → shown.generation = 0

structure Register (disk : Disk FileName UInt8) (tried : Nat → Bytes → Prop)
    (base shown : StoredValue Bytes) : Prop where
  recovers : Recovers disk tried base
  shows : Shows disk shown
  le : base.generation ≤ shown.generation
  unset : base.payload = none → base.generation = 0

/-- What is there for certain may become a later state that was tried. -/
def Advances (tried : Nat → Bytes → Prop) (base next : StoredValue Bytes) : Prop :=
  next = base ∨ base.generation < next.generation ∧
    ∃ payload, next.payload = some payload ∧ tried next.generation payload

theorem settled_injective {first second : Option Bytes}
    (h : first.map settled = second.map settled) : first = second := by
  apply Option.map_injective ?_ h
  intro a b hsame
  cases hsame
  rfl

theorem Shows.keeps {disk next : Disk FileName UInt8} {shown : StoredValue Bytes}
    (h : Shows disk shown) (hkeeps : Disk.Keeps IsState disk next) : Shows next shown := by
  refine ⟨?_, ?_, h.bounded, h.unset⟩
  · rw [hkeeps.holds _ ⟨_, h.bounded, rfl⟩]
    exact h.holds
  · intro generation hless hle file
    rw [hkeeps.holds _ ⟨generation, hle, rfl⟩]
    exact h.top generation hless hle file

namespace Register

variable {disk next : Disk FileName UInt8} {tried : Nat → Bytes → Prop}
  {base shown : StoredValue Bytes}

theorem base_bounded (h : Register disk tried base shown) : base.generation ≤ u64Max :=
  Nat.le_trans h.le h.shows.bounded

theorem keeps (h : Register disk tried base shown) (hkeeps : Disk.Keeps IsState disk next) :
    Register next tried base shown := by
  refine ⟨⟨?_, ?_⟩, h.shows.keeps hkeeps, h.le, h.unset⟩
  · intro node hnode
    exact h.recovers.based node (hkeeps.mayHold _ ⟨_, h.base_bounded, rfl⟩ node hnode)
  · intro generation hless hle file hfile
    exact h.recovers.above generation hless hle file
      (hkeeps.mayHold _ ⟨generation, hle, rfl⟩ _ hfile)

theorem mono {tried' : Nat → Bytes → Prop} (h : Register disk tried base shown)
    (hle : ∀ generation payload, tried generation payload → tried' generation payload) :
    Register disk tried' base shown := by
  refine ⟨⟨h.recovers.based, ?_⟩, h.shows, h.le, h.unset⟩
  intro generation hless hbound file hfile
  obtain ⟨hsynced, htried⟩ := h.recovers.above generation hless hbound file hfile
  exact ⟨hsynced, hle _ _ htried⟩

/-- At the generation of what is there for certain, nothing else is shown. -/
theorem shown_eq (h : Register disk tried base shown)
    (hsame : shown.generation = base.generation) : shown = base := by
  have hbase := h.recovers.based _ (disk.mayHold_self _)
  rw [← hsame, h.shows.holds] at hbase
  obtain ⟨generation, payload⟩ := shown
  obtain ⟨generation', payload'⟩ := base
  dsimp only at hsame hbase
  rw [hsame, settled_injective hbase]

/-- A state that is shown and may not come back was tried. -/
theorem advances (h : Register disk tried base shown) : Advances tried base shown := by
  rcases Nat.lt_or_eq_of_le h.le with hless | hsame
  · refine Or.inr ⟨hless, ?_⟩
    cases hpayload : shown.payload with
    | none =>
        have hzero := h.shows.unset hpayload
        omega
    | some payload =>
        refine ⟨payload, rfl, ?_⟩
        have hholds : disk.entries.get? (statePath shown.generation) = some (settled payload) := by
          rw [h.shows.holds, hpayload]
          rfl
        have hmay := disk.mayHold_self (statePath shown.generation)
        rw [hholds] at hmay
        exact (h.recovers.above _ hless h.shows.bounded _ hmay).2
  · exact Or.inl (h.shown_eq hsame.symm)

/-- Once the folder is synced, what is shown is there for certain. -/
theorem settle (h : Register disk tried base shown) (hsynced : disk.replaced = []) :
    Register disk tried shown shown := by
  refine ⟨⟨?_, ?_⟩, h.shows, Nat.le_refl _, h.shows.unset⟩
  · intro node hnode
    rw [(Disk.mayHold_of_synced hsynced).mp hnode]
    exact h.shows.holds
  · intro generation hless hle file hfile
    exact absurd ((Disk.mayHold_of_synced hsynced).mp hfile).symm
      (h.shows.top generation hless hle file)

/-- Of two generations for certain, the later one is kept. -/
theorem raise (h : Register disk tried base shown) {generation : Nat} {file : File UInt8}
    (hbound : generation ≤ u64Max) (hless : base.generation < generation)
    (hcertain : ∀ node, disk.MayHold (statePath generation) node → node = some (.file file)) :
    Register disk tried ⟨generation, some file.content⟩ shown ∧
      Advances tried base ⟨generation, some file.content⟩ := by
  have hentry := hcertain _ (disk.mayHold_self _)
  have hmay := disk.mayHold_self (statePath generation)
  rw [hentry] at hmay
  obtain ⟨hsynced, htried⟩ := h.recovers.above generation hless hbound file hmay
  refine ⟨⟨⟨?_, ?_⟩, h.shows, ?_, fun himpossible => by cases himpossible⟩,
    Or.inr ⟨hless, _, rfl, htried⟩⟩
  · intro node hnode
    obtain ⟨content, synced⟩ := file
    dsimp only at hsynced
    rw [hcertain node hnode, hsynced]
    rfl
  · intro later hlater hle file' hfile'
    exact h.recovers.above later (Nat.lt_trans hless hlater) hle file' hfile'
  · by_contra hlower
    exact h.shows.top generation (Nat.lt_of_not_le hlower) hbound file hentry

/-- A later state comes to the folder, or one that was not certain goes. -/
theorem beside {tried' : Nat → Bytes → Prop} {shown' : StoredValue Bytes} {generation : Nat}
    (h : Register disk tried base shown)
    (hmono : ∀ generation payload, tried generation payload → tried' generation payload)
    (hless : base.generation < generation)
    (hkeeps : Disk.Keeps (fun name => IsState name ∧ name ≠ statePath generation) disk next)
    (hfile : ∀ file, next.MayHold (statePath generation) (some (.file file)) →
      file.synced = true ∧ tried' generation file.content)
    (hshows : Shows next shown') (hle : base.generation ≤ shown'.generation)
    (hbound : generation ≤ u64Max) : Register next tried' base shown' := by
  refine ⟨⟨?_, ?_⟩, hshows, hle, h.unset⟩
  · intro node hnode
    refine h.recovers.based node (hkeeps.mayHold _ ⟨⟨_, h.base_bounded, rfl⟩, ?_⟩ node hnode)
    intro hsame
    have := statePath_injective h.base_bounded hsame hbound
    omega
  · intro other hother hbound' file hmay
    by_cases hsame : other = generation
    · subst hsame
      exact hfile file hmay
    · have hne : statePath other ≠ statePath generation := fun heq =>
        hsame (statePath_injective hbound' heq hbound)
      obtain ⟨hsynced, htried⟩ := h.recovers.above other hother hbound' file
        (hkeeps.mayHold _ ⟨⟨other, hbound', rfl⟩, hne⟩ _ hmay)
      exact ⟨hsynced, hmono _ _ htried⟩

end Register

theorem exists_top (disk : Disk FileName UInt8) (low : Nat) :
    (∀ generation, low < generation → generation ≤ u64Max → ∀ file,
        disk.entries.get? (statePath generation) ≠ some (.file file)) ∨
      ∃ generation, low < generation ∧ generation ≤ u64Max ∧
        (∃ file, disk.entries.get? (statePath generation) = some (.file file)) ∧
        ∀ later, generation < later → later ≤ u64Max → ∀ file,
          disk.entries.get? (statePath later) ≠ some (.file file) := by
  classical
  by_cases hnone : ∀ generation, low < generation → generation ≤ u64Max → ∀ file,
      disk.entries.get? (statePath generation) ≠ some (.file file)
  · exact Or.inl hnone
  · refine Or.inr ?_
    push Not at hnone
    obtain ⟨first, hlow, hfirst, hfile⟩ := hnone
    let holds (generation : Nat) : Prop := low < generation ∧
      ∃ file, disk.entries.get? (statePath generation) = some (.file file)
    have hspec : holds (Nat.findGreatest holds u64Max) :=
      Nat.findGreatest_spec hfirst ⟨hlow, hfile⟩
    refine ⟨Nat.findGreatest holds u64Max, hspec.1, Nat.findGreatest_le _, hspec.2, ?_⟩
    intro later hless hle file hholds
    exact Nat.findGreatest_is_greatest hless hle ⟨Nat.lt_trans hspec.1 hless, file, hholds⟩

/-- After a loss of power the folder shows what was certain or a later state that was tried. -/
theorem Register.losesPower {before after : Disk FileName UInt8} {tried : Nat → Bytes → Prop}
    {base shown : StoredValue Bytes} (h : Register before tried base shown)
    (hloses : Disk.LosesPower before after) :
    ∃ found : StoredValue Bytes, Register after tried found found ∧ Advances tried base found := by
  have hbase : after.entries.get? (statePath base.generation) = base.payload.map settled := by
    cases hentry : after.entries.get? (statePath base.generation) with
    | none => exact h.recovers.based none (hloses.empty _ hentry)
    | some node =>
        cases node with
        | folder => exact h.recovers.based _ (hloses.folder _ hentry)
        | file file =>
            obtain ⟨hsynced, old, hold, hcontent⟩ := hloses.file _ file hentry
            have hold' := h.recovers.based _ hold
            cases hpayload : base.payload with
            | none =>
                rw [hpayload] at hold'
                cases hold'
            | some payload =>
                rw [hpayload] at hold'
                cases hold'
                obtain ⟨content, synced⟩ := file
                dsimp only at hsynced hcontent
                rw [hsynced, ← hcontent rfl]
                rfl
  have habove : ∀ generation, base.generation < generation → generation ≤ u64Max → ∀ file,
      after.entries.get? (statePath generation) = some (.file file) →
        file.synced = true ∧ tried generation file.content := by
    intro generation hless hle file hfile
    obtain ⟨hsynced, old, hold, hcontent⟩ := hloses.file _ file hfile
    obtain ⟨holdSynced, htried⟩ := h.recovers.above generation hless hle old hold
    rw [hcontent holdSynced] at htried
    exact ⟨hsynced, htried⟩
  have hregister : ∀ found : StoredValue Bytes, Shows after found →
      base.generation ≤ found.generation → Register after tried found found := by
    intro found hshows hle
    refine ⟨⟨?_, ?_⟩, hshows, Nat.le_refl _, hshows.unset⟩
    · intro node hnode
      rw [(Disk.mayHold_of_synced hloses.synced).mp hnode]
      exact hshows.holds
    · intro generation hless hbound file hfile
      exact habove generation (Nat.lt_of_le_of_lt hle hless) hbound file
        ((Disk.mayHold_of_synced hloses.synced).mp hfile).symm
  rcases exists_top after base.generation with hnone | ⟨generation, hless, hbound, hfile, htop⟩
  · exact ⟨base, hregister base ⟨hbase, hnone, h.base_bounded, h.unset⟩ (Nat.le_refl _),
      Or.inl rfl⟩
  · obtain ⟨file, hentry⟩ := hfile
    obtain ⟨hsynced, htried⟩ := habove generation hless hbound file hentry
    obtain ⟨content, synced⟩ := file
    dsimp only at hsynced
    subst hsynced
    refine ⟨⟨generation, some content⟩, hregister _ ⟨hentry, htop, hbound, ?_⟩
      (Nat.le_of_lt hless), Or.inr ⟨hless, content, rfl, htried⟩⟩
    intro himpossible
    cases himpossible

end FileStore

end NostrDoubleRatchet
