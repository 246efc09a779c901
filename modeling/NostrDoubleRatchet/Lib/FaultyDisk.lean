import Mathlib.Data.List.Sort
import Mathlib.Data.Stream.Init
import NostrDoubleRatchet.Lib.Program
import NostrDoubleRatchet.Lib.SortedMap

/-!
A folder of files on a disk, under a program that may be killed at any of its calls and whose
calls may fail. What a change of the folder replaces may come back when the power is lost, until
the folder is synced, and a file that is not synced may come back with any content.
-/

/-- Why a program stops before it returns. -/
inductive Interrupt (ε : Type) where
  | killed
  | failed (error : ε)
  deriving DecidableEq

def Interrupt.map {ε ε' : Type} (f : ε → ε') : Interrupt ε → Interrupt ε'
  | .killed => .killed
  | .failed error => .failed (f error)

namespace Program

variable {ε ε' σ α β : Type}

def mapFailure (f : ε → ε') (x : Program (Interrupt ε) σ α) : Program (Interrupt ε') σ α :=
  fun s => ((exec x s).1.mapError (Interrupt.map f), (exec x s).2)

def caught : Except (Interrupt ε) α × σ → Except (Interrupt ε') (Except ε α) × σ
  | (.ok a, t) => (.ok (.ok a), t)
  | (.error (.failed error), t) => (.ok (.error error), t)
  | (.error .killed, t) => (.error .killed, t)

/-- Go on with the failure of a part, unless the program is killed in it. -/
def attempt (x : Program (Interrupt ε) σ α) : Program (Interrupt ε') σ (Except ε α) := fun s =>
  caught (exec x s)

theorem exec_attempt (x : Program (Interrupt ε) σ α) (s : σ) :
    exec (attempt x : Program (Interrupt ε') σ (Except ε α)) s = caught (exec x s) := rfl

theorem exec_mapFailure (f : ε → ε') (x : Program (Interrupt ε) σ α) (s : σ) :
    exec (mapFailure f x) s = ((exec x s).1.mapError (Interrupt.map f), (exec x s).2) := rfl

def fail (error : ε) : Program (Interrupt ε) σ α := throw (.failed error)

/-- What holds of every end of a run from `s`: of what it returns, and of where it stops. -/
structure Ends (x : Program ε σ α) (s : σ) (returns : α → σ → Prop) (stops : ε → σ → Prop) :
    Prop where
  returned : ∀ a t, exec x s = (.ok a, t) → returns a t
  stopped : ∀ e t, exec x s = (.error e, t) → stops e t

namespace Ends

variable {x : Program ε σ α} {s : σ} {returns : α → σ → Prop} {stops : ε → σ → Prop}

theorem pure {a : α} (h : returns a s) : Ends (Pure.pure a : Program ε σ α) s returns stops := by
  refine ⟨?_, ?_⟩
  · intro b t hrun
    cases hrun
    exact h
  · intro e t hrun
    cases hrun

theorem throw {e : ε} (h : stops e s) :
    Ends (MonadExcept.throw e : Program ε σ α) s returns stops := by
  refine ⟨?_, ?_⟩
  · intro b t hrun
    cases hrun
  · intro e' t hrun
    cases hrun
    exact h

theorem bind {f : α → Program ε σ β} {returns : β → σ → Prop}
    (h : Ends x s (fun a t => Ends (f a) t returns stops) stops) :
    Ends (x >>= f) s returns stops := by
  refine ⟨?_, ?_⟩
  · intro b t hrun
    obtain ⟨a, mid, hfirst, hsecond⟩ := bind_eq_ok.mp hrun
    exact (h.returned a mid hfirst).returned b t hsecond
  · intro e t hrun
    rcases bind_eq_error.mp hrun with hfirst | ⟨a, mid, hfirst, hsecond⟩
    · exact h.stopped e t hfirst
    · exact (h.returned a mid hfirst).stopped e t hsecond

theorem mono {returns' : α → σ → Prop} {stops' : ε → σ → Prop} (h : Ends x s returns stops)
    (hreturns : ∀ a t, returns a t → returns' a t) (hstops : ∀ e t, stops e t → stops' e t) :
    Ends x s returns' stops' :=
  ⟨fun a t hrun => hreturns a t (h.returned a t hrun),
    fun e t hrun => hstops e t (h.stopped e t hrun)⟩

theorem and {returns' : α → σ → Prop} {stops' : ε → σ → Prop} (h : Ends x s returns stops)
    (h' : Ends x s returns' stops') :
    Ends x s (fun a t => returns a t ∧ returns' a t) (fun e t => stops e t ∧ stops' e t) :=
  ⟨fun a t hrun => ⟨h.returned a t hrun, h'.returned a t hrun⟩,
    fun e t hrun => ⟨h.stopped e t hrun, h'.stopped e t hrun⟩⟩

theorem of_moves {r : σ → σ → Prop} (h : Moves r x) (s : σ) :
    Ends x s (fun _ t => r s t) (fun _ t => r s t) := by
  refine ⟨?_, ?_⟩
  · intro a t hrun
    have hmoved := h s
    rw [hrun] at hmoved
    exact hmoved
  · intro e t hrun
    have hmoved := h s
    rw [hrun] at hmoved
    exact hmoved

theorem attempt {x : Program (Interrupt ε) σ α} {returns : Except ε α → σ → Prop}
    {stops : Interrupt ε' → σ → Prop}
    (h : Ends x s (fun a t => returns (.ok a) t) (fun interrupt t =>
      (interrupt = .killed ∧ stops .killed t) ∨
        ∃ error, interrupt = .failed error ∧ returns (.error error) t)) :
    Ends (Program.attempt x : Program (Interrupt ε') σ (Except ε α)) s returns stops := by
  obtain ⟨hreturned, hstopped⟩ := h
  refine ⟨?_, ?_⟩
  · intro b t hrun
    rw [exec_attempt] at hrun
    generalize exec x s = outcome at hreturned hstopped hrun
    obtain ⟨(_ | error) | a, mid⟩ := outcome
    · cases hrun
    · cases hrun
      rcases hstopped _ _ rfl with ⟨himpossible, -⟩ | ⟨error', herror, hfailed⟩
      · cases himpossible
      · cases herror
        exact hfailed
    · cases hrun
      exact hreturned _ t rfl
  · intro e t hrun
    rw [exec_attempt] at hrun
    generalize exec x s = outcome at hstopped hrun
    obtain ⟨(_ | error) | a, mid⟩ := outcome
    · cases hrun
      rcases hstopped _ _ rfl with ⟨-, hkilled⟩ | ⟨error, himpossible, -⟩
      · exact hkilled
      · cases himpossible
    · cases hrun
    · cases hrun

theorem mapFailure {f : ε → ε'} {x : Program (Interrupt ε) σ α} {returns : α → σ → Prop}
    {stops : Interrupt ε' → σ → Prop}
    (h : Ends x s returns (fun interrupt t => stops (interrupt.map f) t)) :
    Ends (Program.mapFailure f x) s returns stops := by
  obtain ⟨hreturned, hstopped⟩ := h
  refine ⟨?_, ?_⟩
  · intro b t hrun
    rw [exec_mapFailure] at hrun
    generalize exec x s = outcome at hreturned hrun
    obtain ⟨interrupt | a, mid⟩ := outcome
    · cases hrun
    · cases hrun
      exact hreturned _ _ rfl
  · intro e t hrun
    rw [exec_mapFailure] at hrun
    generalize exec x s = outcome at hstopped hrun
    obtain ⟨interrupt | a, mid⟩ := outcome
    · cases hrun
      exact hstopped interrupt mid rfl
    · cases hrun

end Ends

namespace Moves

variable {r : σ → σ → Prop}

theorem attempt {x : Program (Interrupt ε) σ α} (h : Moves r x) :
    Moves r (Program.attempt x : Program (Interrupt ε') σ (Except ε α)) := by
  intro s
  have hx := h s
  rw [exec_attempt]
  generalize exec x s = outcome at hx ⊢
  obtain ⟨(_ | error) | a, mid⟩ := outcome
  · exact hx
  · exact hx
  · exact hx

theorem mapFailure {f : ε → ε'} {x : Program (Interrupt ε) σ α} (h : Moves r x) :
    Moves r (Program.mapFailure f x) := h

end Moves

end Program

namespace FaultyDisk

inductive ErrorKind where
  | notFound
  | alreadyExists
  | isADirectory
  | unexpectedEof
  | other
  deriving DecidableEq

structure IoError where
  kind : ErrorKind
  message : String
  deriving DecidableEq

structure File (B : Type) where
  content : List B
  synced : Bool
  deriving DecidableEq

inductive Node (B : Type) where
  | file (file : File B)
  | folder
  deriving DecidableEq

def Node.isFile {B : Type} : Node B → Bool
  | .file _ => true
  | .folder => false

/-- A folder: its entries, and those that its changes since its last sync replaced. -/
structure Disk (N B : Type) [LinearOrder N] where
  entries : SortedMap N (Node B)
  replaced : List (N × Option (Node B))

/-- A failure that the folder does not explain. -/
inductive Fault where
  | fails (message : String)
  | kills

/-- What befalls a call: its fault, the part of a write done before it, and the order in which a
folder is listed. -/
structure Call (N : Type) where
  fault : Option Fault
  written : Nat
  rank : N → Nat

structure Machine (N B : Type) [LinearOrder N] where
  disk : Disk N B
  calls : Stream' (Call N)

variable {N B α : Type} [LinearOrder N]

namespace Disk

/-- What may be found at `name` once the power has been lost. -/
def MayHold (disk : Disk N B) (name : N) (node : Option (Node B)) : Prop :=
  node = disk.entries.get? name ∨ (name, node) ∈ disk.replaced

theorem mayHold_self (disk : Disk N B) (name : N) : disk.MayHold name (disk.entries.get? name) :=
  Or.inl rfl

theorem mayHold_of_synced {disk : Disk N B} (h : disk.replaced = []) {name : N}
    {node : Option (Node B)} : disk.MayHold name node ↔ node = disk.entries.get? name := by
  simp [MayHold, h]

def put (disk : Disk N B) (name : N) (node : Node B) : Disk N B where
  entries := disk.entries.insert name node
  replaced := (name, disk.entries.get? name) :: disk.replaced

def remove (disk : Disk N B) (name : N) : Disk N B where
  entries := disk.entries.erase name
  replaced := (name, disk.entries.get? name) :: disk.replaced

/-- Change the file at `name`, which is no change of the folder. -/
def setFile (disk : Disk N B) (name : N) (file : File B) : Disk N B :=
  { disk with entries := disk.entries.insert name (.file file) }

theorem mayHold_put_ne {disk : Disk N B} {name other : N} (h : other ≠ name) {node : Node B}
    {found : Option (Node B)} : (disk.put name node).MayHold other found ↔
      disk.MayHold other found := by
  simp [MayHold, put, SortedMap.get?_insert_ne _ _ (Ne.symm h), h]

theorem mayHold_put_self {disk : Disk N B} {name : N} {node : Node B} {found : Option (Node B)}
    (hfound : (disk.put name node).MayHold name found) :
    found = some node ∨ disk.MayHold name found := by
  rcases hfound with hnow | hbefore
  · rw [put, SortedMap.get?_insert_self] at hnow
    exact Or.inl hnow
  · rcases List.mem_cons.mp hbefore with hlast | hbefore
    · exact Or.inr (Or.inl (congrArg Prod.snd hlast))
    · exact Or.inr (Or.inr hbefore)

theorem mayHold_remove_ne {disk : Disk N B} {name other : N} (h : other ≠ name)
    {found : Option (Node B)} : (disk.remove name).MayHold other found ↔
      disk.MayHold other found := by
  simp [MayHold, remove, SortedMap.get?_erase_ne _ (Ne.symm h), h]

theorem mayHold_remove_self {disk : Disk N B} {name : N} {found : Option (Node B)}
    (hfound : (disk.remove name).MayHold name found) :
    found = none ∨ disk.MayHold name found := by
  rcases hfound with hnow | hbefore
  · rw [remove, SortedMap.get?_erase_self] at hnow
    exact Or.inl hnow
  · rcases List.mem_cons.mp hbefore with hlast | hbefore
    · exact Or.inr (Or.inl (congrArg Prod.snd hlast))
    · exact Or.inr (Or.inr hbefore)

theorem mayHold_setFile_ne {disk : Disk N B} {name other : N} (h : other ≠ name) {file : File B}
    {found : Option (Node B)} : (disk.setFile name file).MayHold other found ↔
      disk.MayHold other found := by
  simp [MayHold, setFile, SortedMap.get?_insert_ne _ _ (Ne.symm h)]

/-- The names of `watched` keep what they hold, and nothing else may come back. -/
structure Keeps (watched : N → Prop) (s t : Disk N B) : Prop where
  holds : ∀ name, watched name → t.entries.get? name = s.entries.get? name
  mayHold : ∀ name, watched name → ∀ node, t.MayHold name node → s.MayHold name node

namespace Keeps

variable {watched : N → Prop} {s t u : Disk N B} {name : N}

theorem refl (s : Disk N B) : Keeps watched s s := ⟨fun _ _ => rfl, fun _ _ _ h => h⟩

theorem trans (hst : Keeps watched s t) (htu : Keeps watched t u) : Keeps watched s u := by
  refine ⟨?_, ?_⟩
  · intro name hname
    rw [htu.holds name hname, hst.holds name hname]
  · intro name hname node hnode
    exact hst.mayHold name hname node (htu.mayHold name hname node hnode)

theorem mono {watched' : N → Prop} (h : Keeps watched s t)
    (hle : ∀ name, watched' name → watched name) : Keeps watched' s t :=
  ⟨fun name hname => h.holds name (hle name hname),
    fun name hname => h.mayHold name (hle name hname)⟩

theorem put (h : ¬watched name) (s : Disk N B) (node : Node B) :
    Keeps watched s (s.put name node) := by
  have hne : ∀ other, watched other → other ≠ name := fun other hother hsame =>
    h (hsame ▸ hother)
  exact ⟨fun other hother => SortedMap.get?_insert_ne _ _ (hne other hother).symm,
    fun other hother _ => (mayHold_put_ne (hne other hother)).mp⟩

theorem remove (h : ¬watched name) (s : Disk N B) : Keeps watched s (s.remove name) := by
  have hne : ∀ other, watched other → other ≠ name := fun other hother hsame =>
    h (hsame ▸ hother)
  exact ⟨fun other hother => SortedMap.get?_erase_ne _ (hne other hother).symm,
    fun other hother _ => (mayHold_remove_ne (hne other hother)).mp⟩

theorem setFile (h : ¬watched name) (s : Disk N B) (file : File B) :
    Keeps watched s (s.setFile name file) := by
  have hne : ∀ other, watched other → other ≠ name := fun other hother hsame =>
    h (hsame ▸ hother)
  exact ⟨fun other hother => SortedMap.get?_insert_ne _ _ (hne other hother).symm,
    fun other hother _ => (mayHold_setFile_ne (hne other hother)).mp⟩

theorem synced (s : Disk N B) : Keeps watched s { s with replaced := [] } := by
  refine ⟨fun _ _ => rfl, ?_⟩
  intro name _ node hnode
  have hsynced : ({ s with replaced := [] } : Disk N B).replaced = [] := rfl
  exact Or.inl ((mayHold_of_synced hsynced).mp hnode)

end Keeps

/-- A name of `watched` may lose what it holds, and nothing else comes to it, now or later. -/
structure Drops (watched : N → Prop) (s t : Disk N B) : Prop where
  holds : ∀ name, watched name → t.entries.get? name = s.entries.get? name ∨
    t.entries.get? name = none
  mayHold : ∀ name, watched name → ∀ node, t.MayHold name (some node) → s.MayHold name (some node)

theorem Drops.remove {watched : N → Prop} (s : Disk N B) (name : N) :
    Drops watched s (s.remove name) := by
  refine ⟨?_, ?_⟩
  · intro other _
    by_cases hsame : other = name
    · subst hsame
      exact Or.inr (SortedMap.get?_erase_self _ _)
    · exact Or.inl (SortedMap.get?_erase_ne _ (Ne.symm hsame))
  · intro other _ node hnode
    by_cases hsame : other = name
    · subst hsame
      rcases mayHold_remove_self hnode with himpossible | hbefore
      · cases himpossible
      · exact hbefore
    · exact (mayHold_remove_ne hsame).mp hnode

/-- A relation in which programs stay by its rules: calls compose, and a sync of the folder is
in it. -/
structure Bound (r : Disk N B → Disk N B → Prop) : Prop where
  refl : ∀ s, r s s
  trans : ∀ s t u, r s t → r t u → r s u
  synced : ∀ s, r s { s with replaced := [] }

theorem Keeps.bound (watched : N → Prop) : Bound (Keeps (N := N) (B := B) watched) :=
  ⟨Keeps.refl, fun _ _ _ => Keeps.trans, Keeps.synced⟩

theorem Drops.bound (watched : N → Prop) : Bound (Drops (N := N) (B := B) watched) := by
  refine ⟨fun _ => ⟨fun _ _ => Or.inl rfl, fun _ _ _ h => h⟩, ?_, ?_⟩
  · intro s t u hst htu
    refine ⟨?_, fun name hname node hnode =>
      hst.mayHold name hname node (htu.mayHold name hname node hnode)⟩
    intro name hname
    rcases htu.holds name hname with hsame | hnone
    · rw [hsame]
      exact hst.holds name hname
    · exact Or.inr hnone
  · intro s
    have hkeeps : Keeps watched s { s with replaced := [] } := Keeps.synced s
    exact ⟨fun _ _ => Or.inl rfl, fun name hname node => hkeeps.mayHold name hname (some node)⟩

theorem Bound.and {r r' : Disk N B → Disk N B → Prop} (h : Bound r) (h' : Bound r') :
    Bound (fun s t => r s t ∧ r' s t) :=
  ⟨fun s => ⟨h.refl s, h'.refl s⟩,
    fun s t u hst htu => ⟨h.trans s t u hst.1 htu.1, h'.trans s t u hst.2 htu.2⟩,
    fun s => ⟨h.synced s, h'.synced s⟩⟩

/-- The names of a folder, each with whether it is a file, in an order of the system's own. -/
def listing (disk : Disk N B) (rank : N → Nat) : List (N × Bool) :=
  (disk.entries.entries.map (fun entry => (entry.1, entry.2.isFile))).insertionSort
    (fun a b => rank a.1 ≤ rank b.1)

theorem mem_listing {disk : Disk N B} {rank : N → Nat} {name : N} {isFile : Bool} :
    (name, isFile) ∈ disk.listing rank ↔
      ∃ node, disk.entries.get? name = some node ∧ node.isFile = isFile := by
  rw [listing, List.mem_insertionSort, List.mem_map]
  constructor
  · rintro ⟨⟨name', node⟩, hmem, hsame⟩
    cases hsame
    exact ⟨node, SortedMap.mem_entries.mp hmem, rfl⟩
  · rintro ⟨node, hget, rfl⟩
    exact ⟨(name, node), SortedMap.mem_entries.mpr hget, rfl⟩

theorem mem_listing_file {disk : Disk N B} {rank : N → Nat} {name : N} :
    (name, true) ∈ disk.listing rank ↔ ∃ file, disk.entries.get? name = some (.file file) := by
  rw [mem_listing]
  constructor
  · rintro ⟨node, hget, hfile⟩
    cases node with
    | file file => exact ⟨file, hget⟩
    | folder => cases hfile
  · rintro ⟨file, hget⟩
    exact ⟨.file file, hget, rfl⟩

/-- A loss of power: every name comes back with something it may hold, and a file that was not
synced with any content. -/
structure LosesPower (before after : Disk N B) : Prop where
  synced : after.replaced = []
  empty : ∀ name, after.entries.get? name = none → before.MayHold name none
  folder : ∀ name, after.entries.get? name = some .folder → before.MayHold name (some .folder)
  file : ∀ name file, after.entries.get? name = some (.file file) → file.synced = true ∧
    ∃ old, before.MayHold name (some (.file old)) ∧ (old.synced = true → old.content = file.content)

end Disk

/-! The calls. -/

open Program

abbrev DiskM (N B α : Type) [LinearOrder N] := Program (Interrupt IoError) (Machine N B) α

/-- A call of the file system. One that fails has no effect but `failed`. -/
def call (effect : Call N → Disk N B → Except IoError α × Disk N B)
    (failed : Call N → Disk N B → Disk N B) : DiskM N B α := fun machine =>
  let next := machine.calls.head
  let calls := machine.calls.tail
  match next.fault with
  | none =>
      let (result, disk) := effect next machine.disk
      (result.mapError .failed, ⟨disk, calls⟩)
  | some (.fails message) =>
      (.error (.failed ⟨.other, message⟩), ⟨failed next machine.disk, calls⟩)
  | some .kills => (.error .killed, ⟨failed next machine.disk, calls⟩)

/-- A call that changes nothing. -/
def inspect (result : Call N → Disk N B → Except IoError α) : DiskM N B α :=
  call (fun next disk => (result next disk, disk)) (fun _ disk => disk)

def change (effect : Disk N B → Except IoError (Disk N B)) : DiskM N B Unit :=
  call (fun _ disk => match effect disk with
    | .error error => (.error error, disk)
    | .ok next => (.ok (), next)) (fun _ disk => disk)

/-- A call without an effect on the folder, such as setting permissions or taking a lock. -/
def touch : DiskM N B Unit := inspect (fun _ _ => .ok ())

/-- The program is killed, or a failure is met that the folder does not explain. -/
def Unexplained (interrupt : Interrupt IoError) : Prop :=
  interrupt = .killed ∨ ∃ message, interrupt = .failed ⟨.other, message⟩

theorem call_ends (effect : Call N → Disk N B → Except IoError α × Disk N B)
    (failed : Call N → Disk N B → Disk N B) (s : Machine N B) :
    Ends (call effect failed) s
      (fun a t => effect s.calls.head s.disk = (.ok a, t.disk))
      (fun e t => Unexplained e ∧ t.disk = failed s.calls.head s.disk ∨
        ∃ error, e = .failed error ∧ effect s.calls.head s.disk = (.error error, t.disk)) := by
  have hrun : exec (call effect failed) s = call effect failed s := rfl
  refine ⟨?_, ?_⟩
  · intro a t h
    rw [hrun] at h
    dsimp only [call] at h
    generalize effect s.calls.head s.disk = outcome at h ⊢
    obtain ⟨_ | b, disk⟩ := outcome
    · split at h
      · cases h
      · cases h
      · cases h
    · split at h
      · cases h
        rfl
      · cases h
      · cases h
  · intro e t h
    rw [hrun] at h
    dsimp only [call] at h
    generalize effect s.calls.head s.disk = outcome at h ⊢
    obtain ⟨error | b, disk⟩ := outcome
    · split at h
      · cases h
        exact Or.inr ⟨error, rfl, rfl⟩
      · cases h
        exact Or.inl ⟨Or.inr ⟨_, rfl⟩, rfl⟩
      · cases h
        exact Or.inl ⟨Or.inl rfl, rfl⟩
    · split at h
      · cases h
      · cases h
        exact Or.inl ⟨Or.inr ⟨_, rfl⟩, rfl⟩
      · cases h
        exact Or.inl ⟨Or.inl rfl, rfl⟩

theorem change_ends (effect : Disk N B → Except IoError (Disk N B)) (s : Machine N B) :
    Ends (change effect) s (fun _ t => effect s.disk = .ok t.disk)
      (fun e t => t.disk = s.disk ∧ (Unexplained e ∨
        ∃ error, e = .failed error ∧ effect s.disk = .error error)) := by
  refine (call_ends _ _ s).mono ?_ ?_
  · intro _ t h
    cases heffect : effect s.disk with
    | error error =>
        rw [heffect] at h
        cases h
    | ok disk =>
        rw [heffect] at h
        cases h
        rfl
  · rintro e t (⟨hunexplained, hdisk⟩ | ⟨error, he, h⟩)
    · exact ⟨hdisk, Or.inl hunexplained⟩
    · cases heffect : effect s.disk with
      | error error =>
          rw [heffect] at h
          obtain ⟨herror, hdisk⟩ := Prod.mk.inj h
          cases herror
          exact ⟨hdisk.symm, Or.inr ⟨error, he, rfl⟩⟩
      | ok disk =>
          rw [heffect] at h
          cases h

theorem inspect_ends (result : Call N → Disk N B → Except IoError α) (s : Machine N B) :
    Ends (inspect result) s (fun a t => result s.calls.head s.disk = .ok a ∧ t.disk = s.disk)
      (fun _ t => t.disk = s.disk) := by
  refine (call_ends _ _ s).mono ?_ ?_
  · intro a t h
    obtain ⟨hresult, hdisk⟩ := Prod.mk.inj h
    exact ⟨hresult, hdisk.symm⟩
  · rintro _ t (⟨-, hfailed⟩ | ⟨error, -, h⟩)
    · exact hfailed
    · exact (Prod.mk.inj h).2.symm

def missing : IoError := ⟨.notFound, "No such file or directory (os error 2)"⟩
def present : IoError := ⟨.alreadyExists, "File exists (os error 17)"⟩
def directory : IoError := ⟨.isADirectory, "Is a directory (os error 21)"⟩
def endOfFile : IoError := ⟨.unexpectedEof, "failed to fill whole buffer"⟩

/-- Open a file, and make it where there is none. -/
def openOrCreate (name : N) : DiskM N B Unit :=
  change fun disk =>
    match disk.entries.get? name with
    | none => .ok (disk.put name (.file ⟨[], false⟩))
    | some (.file _) => .ok disk
    | some .folder => .error directory

def createNew (name : N) : DiskM N B Unit :=
  change fun disk =>
    match disk.entries.get? name with
    | none => .ok (disk.put name (.file ⟨[], false⟩))
    | some _ => .error present

def Disk.append (disk : Disk N B) (name : N) (data : List B) : Except IoError (Disk N B) :=
  match disk.entries.get? name with
  | some (.file file) => .ok (disk.setFile name ⟨file.content ++ data, false⟩)
  | _ => .error missing

/-- Write all of `data`. A write that fails may have done a part of it. -/
def writeAll (name : N) (data : List B) : DiskM N B Unit :=
  call (fun _ disk => match disk.append name data with
    | .error error => (.error error, disk)
    | .ok next => (.ok (), next))
    (fun next disk => (disk.append name (data.take next.written)).toOption.getD disk)

def syncFile (name : N) : DiskM N B Unit :=
  change fun disk =>
    match disk.entries.get? name with
    | some (.file file) => .ok (disk.setFile name { file with synced := true })
    | _ => .error missing

def removeFile (name : N) : DiskM N B Unit :=
  change fun disk =>
    match disk.entries.get? name with
    | none => .error missing
    | some (.file _) => .ok (disk.remove name)
    | some .folder => .error directory

/-- Move a file to a name, over a file that is there. -/
def rename (name destination : N) : DiskM N B Unit :=
  change fun disk =>
    match disk.entries.get? name with
    | some (.file file) =>
        match disk.entries.get? destination with
        | some .folder => .error directory
        | _ => .ok ((disk.remove name).put destination (.file file))
    | _ => .error missing

def tryExists (name : N) : DiskM N B Bool :=
  inspect (fun _ disk => .ok (disk.entries.get? name).isSome)

def syncFolder : DiskM N B Unit := change fun disk => .ok { disk with replaced := [] }

def readDir : DiskM N B (List (N × Bool)) :=
  inspect (fun next disk => .ok (disk.listing next.rank))

def readFile {β : Type} (name : N) (f : List B → Except IoError β) : DiskM N B β :=
  inspect (fun _ disk =>
    match disk.entries.get? name with
    | some (.file file) => f file.content
    | _ => .error missing)

def fileLength (name : N) : DiskM N B Nat := readFile name (fun content => .ok content.length)

def readExact (name : N) (length : Nat) : DiskM N B (List B) :=
  readFile name (fun content =>
    if content.length < length then .error endOfFile else .ok (content.take length))

/-- Read up to `count` more bytes after the first `length`. -/
def readAfter (name : N) (length count : Nat) : DiskM N B (List B) :=
  readFile name (fun content => .ok ((content.drop length).take count))

section Within

variable {ε ε' β : Type} {r : Disk N B → Disk N B → Prop} {name : N}

/-- However the program ends, the disk has stayed in `r`. -/
def Within (r : Disk N B → Disk N B → Prop) (x : Program (Interrupt ε) (Machine N B) α) : Prop :=
  Moves (fun s t => r s.disk t.disk) x

namespace Within

theorem call {effect : Call N → Disk N B → Except IoError α × Disk N B}
    {failed : Call N → Disk N B → Disk N B} (heffect : ∀ next s, r s (effect next s).2)
    (hfailed : ∀ next s, r s (failed next s)) : Within r (call effect failed) := by
  intro s
  have hrun : exec (FaultyDisk.call effect failed) s = FaultyDisk.call effect failed s := rfl
  rw [hrun]
  dsimp only [FaultyDisk.call]
  split
  · exact heffect s.calls.head s.disk
  · exact hfailed s.calls.head s.disk
  · exact hfailed s.calls.head s.disk

theorem attempt {x : Program (Interrupt ε) (Machine N B) α} (h : Within r x) :
    Within r (Program.attempt x : Program (Interrupt ε') (Machine N B) (Except ε α)) :=
  Moves.attempt h

theorem mapFailure {f : ε → ε'} {x : Program (Interrupt ε) (Machine N B) α}
    (h : Within r x) : Within r (Program.mapFailure f x) :=
  Moves.mapFailure h

variable (hr : Disk.Bound r)
include hr

theorem pure (a : α) : Within r (Pure.pure a : Program (Interrupt ε) (Machine N B) α) :=
  Moves.pure (fun s => hr.refl s.disk) a

theorem fail (error : ε) : Within r (Program.fail error : Program (Interrupt ε) (Machine N B) α) :=
  Moves.throw (fun s => hr.refl s.disk) _

theorem ofExcept (result : Except (Interrupt ε) α) :
    Within r (Program.ofExcept result : Program (Interrupt ε) (Machine N B) α) :=
  Moves.ofExcept (fun s => hr.refl s.disk) result

theorem bind {x : Program (Interrupt ε) (Machine N B) α}
    {f : α → Program (Interrupt ε) (Machine N B) β} (hx : Within r x)
    (hf : ∀ a, Within r (f a)) : Within r (x >>= f) :=
  Moves.bind (fun s t u => hr.trans s.disk t.disk u.disk) hx hf

theorem inspect (result : Call N → Disk N B → Except IoError α) : Within r (inspect result) :=
  call (fun _ s => hr.refl s) (fun _ s => hr.refl s)

theorem change {effect : Disk N B → Except IoError (Disk N B)}
    (h : ∀ s t, effect s = .ok t → r s t) : Within r (change effect) := by
  refine call ?_ (fun _ s => hr.refl s)
  intro _ s
  cases heffect : effect s with
  | error error => exact hr.refl s
  | ok t => exact h s t heffect

theorem openOrCreate (h : ∀ s node, r s (s.put name node)) :
    Within r (openOrCreate name : DiskM N B Unit) := by
  refine change hr ?_
  intro s t heffect
  split at heffect
  · cases heffect
    exact h s _
  · cases heffect
    exact hr.refl _
  · cases heffect

theorem createNew (h : ∀ s node, r s (s.put name node)) :
    Within r (createNew name : DiskM N B Unit) := by
  refine change hr ?_
  intro s t heffect
  split at heffect
  · cases heffect
    exact h s _
  · cases heffect

theorem writeAll (h : ∀ s file, r s (s.setFile name file)) (data : List B) :
    Within r (writeAll name data) := by
  have happend : ∀ s t part, s.append name part = .ok t → r s t := by
    intro s t part hpart
    unfold Disk.append at hpart
    split at hpart
    · cases hpart
      exact h s _
    · cases hpart
  refine call ?_ ?_
  · intro _ s
    cases hdata : s.append name data with
    | error error => exact hr.refl s
    | ok t => exact happend s t data hdata
  · intro next s
    cases hpart : s.append name (data.take next.written) with
    | error error => exact hr.refl s
    | ok t => exact happend s t _ hpart

theorem syncFile (h : ∀ s file, r s (s.setFile name file)) :
    Within r (syncFile name : DiskM N B Unit) := by
  refine change hr ?_
  intro s t heffect
  split at heffect
  · cases heffect
    exact h s _
  · cases heffect

theorem removeFile (h : ∀ s, r s (s.remove name)) :
    Within r (removeFile name : DiskM N B Unit) := by
  refine change hr ?_
  intro s t heffect
  split at heffect
  · cases heffect
  · cases heffect
    exact h s
  · cases heffect

theorem syncFolder : Within r (syncFolder : DiskM N B Unit) := by
  refine change hr ?_
  intro s t heffect
  cases heffect
  exact hr.synced s

omit hr in
/-- The rule for a part of which no more is known than how it moves the disk. -/
theorem ends_bind {x : Program (Interrupt ε) (Machine N B) α}
    {f : α → Program (Interrupt ε) (Machine N B) β} {s : Machine N B}
    {returns : β → Machine N B → Prop} {stops : Interrupt ε → Machine N B → Prop}
    (h : Within r x) (hstops : ∀ e t, r s.disk t.disk → stops e t)
    (hf : ∀ a t, r s.disk t.disk → Ends (f a) t returns stops) :
    Ends (x >>= f) s returns stops :=
  Ends.bind ((Ends.of_moves h s).mono hf hstops)

end Within

end Within

end FaultyDisk
