import NostrDoubleRatchet.TypeScript.Outbox

/-!
Runs of outboxes over one storage. A storage call takes effect at some point between the call
and the resumption of the task that awaits it, or fails without effect; transport and callbacks
settle as they please. Whatever the order of these steps, a queued envelope leaves the storage
only after a relay has acknowledged it, envelopes are handed out as they were queued, and the
attempts of an outbox respect its slots and its keys.
-/

namespace NostrDoubleRatchet.TypeScript

/-- The storage, every outbox that was created on it, and what has happened: the rows that were
queued, the events given to `publish`, and the rows whose publication was acknowledged, by a
relay under the row's own id and signature and then by `onPublished`. -/
structure OutboxWorld where
  storage : SortedMap String PersistentNostrPublication
  outboxes : List Outbox
  enqueued : List PersistentNostrPublication
  published : List VerifiedEvent
  acked : List PersistentNostrPublication

/-- A call, a timer, a promise that settles or a task that resumes. The first number names the
outbox and the second the task; a `failure` is the error a call settles with, and a `reply` is
what the transport settles to. -/
inductive OutboxStep where
  | create (concurrency : Nat)
  | enqueue (outbox : Nat) (event : VerifiedEvent) (innerEventId : Option String)
      (context : Option NostrPublishContext)
  | publish (outbox : Nat) (event : VerifiedEvent) (innerEventId : Option String)
      (context : Option NostrPublishContext)
  | retry (outbox : Nat)
  | close (outbox : Nat)
  | timerFires (outbox : Nat)
  | settleList (outbox : Nat) (failure : Option String)
  | resumeList (outbox : Nat)
  | finishList (outbox : Nat)
  | settlePut (outbox task : Nat) (failure : Option String)
  | resumeEnqueue (outbox task : Nat)
  | settleAttempt (outbox task : Nat) (failure : Option String) (reply : Outcome (String × String))
  | resumeAttempt (outbox task : Nat)
  | resumePublish (outbox task : Nat)
  | resumeRetry (outbox : Nat)
  | resumeWorker (outbox worker : Nat)

/-- What a call that fails with `failure`, if at all, settles to. -/
def outcomeOf {α : Type} (failure : Option String) (value : α) : Outcome α :=
  match failure with
  | none => .ok value
  | some error => .error error

namespace OutboxWorld

def initial : OutboxWorld := ⟨SortedMap.empty, [], [], [], []⟩

def setOutbox (world : OutboxWorld) (index : Nat) (outbox : Outbox) : OutboxWorld :=
  { world with outboxes := world.outboxes.set index outbox }

/-- A step of one outbox that only touches its own state. -/
def within (world : OutboxWorld) (index : Nat) (f : Outbox → Outbox) : OutboxWorld :=
  match world.outboxes[index]? with
  | none => world
  | some outbox => world.setOutbox index (f outbox)

def queue (world : OutboxWorld) (index : Nat)
    (f : Outbox → Outbox × List PersistentNostrPublication) : OutboxWorld :=
  match world.outboxes[index]? with
  | none => world
  | some outbox =>
      { world.setOutbox index (f outbox).1 with enqueued := world.enqueued ++ (f outbox).2 }

/-- The storage calls of a task, by the point it awaits them at. -/
def settlePut (world : OutboxWorld) (index task : Nat) (failure : Option String) : OutboxWorld :=
  match world.outboxes[index]? with
  | none => world
  | some outbox =>
      match outbox.enqueueTasks[task]? with
      | some ⟨key, row, .putting none⟩ =>
          { world.setOutbox index
              (outbox.setEnqueue task (.putting (some (outcomeOf failure ())))) with
            storage := if failure.isNone then world.storage.insert key row else world.storage }
      | _ => world

def settleAttempt (world : OutboxWorld) (index task : Nat) (failure : Option String)
    (reply : Outcome (String × String)) : OutboxWorld :=
  match world.outboxes[index]? with
  | none => world
  | some outbox =>
      match outbox.attemptTasks[task]? with
      | some ⟨key, .getting none⟩ =>
          world.setOutbox index
            (outbox.setAttempt task
              (.getting (some (outcomeOf failure (world.storage.get? key)))))
      | some ⟨_, .publishing row none⟩ =>
          world.setOutbox index (outbox.setAttempt task (.publishing row (some reply)))
      | some ⟨_, .acknowledging row none⟩ =>
          { world.setOutbox index
              (outbox.setAttempt task (.acknowledging row (some (outcomeOf failure ())))) with
            acked := if failure.isNone then row :: world.acked else world.acked }
      | some ⟨key, .deleting row none⟩ =>
          { world.setOutbox index
              (outbox.setAttempt task (.deleting row (some (outcomeOf failure ())))) with
            storage := if failure.isNone then world.storage.erase key else world.storage }
      | _ => world

def settleList (world : OutboxWorld) (index : Nat) (failure : Option String) : OutboxWorld :=
  match world.outboxes[index]? with
  | none => world
  | some outbox =>
      match outbox.loading with
      | some (.listing none) =>
          world.setOutbox index
            { outbox with loading := some (.listing (some (outcomeOf failure world.storage.keys))) }
      | _ => world

def resumeAttempt (world : OutboxWorld) (index task : Nat) : OutboxWorld :=
  match world.outboxes[index]? with
  | none => world
  | some outbox =>
      { world.setOutbox index (outbox.resumeAttempt task).1 with
        published := world.published ++ (outbox.resumeAttempt task).2 }

def step (world : OutboxWorld) : OutboxStep → OutboxWorld
  | .create concurrency =>
      if 1 ≤ concurrency ∧ concurrency ≤ 64 then
        { world with outboxes := world.outboxes ++ [Outbox.create concurrency] }
      else world
  | .enqueue index event innerEventId context =>
      world.queue index (fun outbox =>
        let result := outbox.enqueue event innerEventId context
        (result.1, result.2.1))
  | .publish index event innerEventId context =>
      world.queue index (fun outbox => outbox.publish event innerEventId context)
  | .retry index => world.within index Outbox.retry
  | .close index => world.within index Outbox.close
  | .timerFires index => world.within index Outbox.timerFires
  | .settleList index failure => world.settleList index failure
  | .resumeList index => world.within index Outbox.resumeList
  | .finishList index => world.within index Outbox.finishList
  | .settlePut index task failure => world.settlePut index task failure
  | .resumeEnqueue index task => world.within index (Outbox.resumeEnqueue · task)
  | .settleAttempt index task failure reply => world.settleAttempt index task failure reply
  | .resumeAttempt index task => world.resumeAttempt index task
  | .resumePublish index task => world.within index (Outbox.resumePublish · task)
  | .resumeRetry index => world.within index Outbox.resumeRetry
  | .resumeWorker index worker => world.within index (Outbox.resumeWorker · worker)

def run (steps : List OutboxStep) : OutboxWorld := steps.foldl step initial

end OutboxWorld

/-! What an outbox knows of the storage. -/

/-- Facts about the world that no step takes back: a key whose row is stored or was
acknowledged, a row that was queued under its key, and one that was acknowledged. -/
structure OutboxLedger where
  held : String → Prop
  sound : String → PersistentNostrPublication → Prop
  acked : String → PersistentNostrPublication → Prop

/-- The second ledger knows all that the first does. -/
structure OutboxLedger.Grows (ledger next : OutboxLedger) : Prop where
  held : ∀ key, ledger.held key → next.held key
  sound : ∀ key row, ledger.sound key row → next.sound key row
  acked : ∀ key row, ledger.acked key row → next.acked key row

def EnqueuePoint.Backed (ledger : OutboxLedger) (key : String) : EnqueuePoint → Prop
  | .putting (some (.ok ())) => ledger.held key
  | .finished (.ok ()) => ledger.held key
  | .settled (.ok ()) => ledger.held key
  | _ => True

def AttemptPoint.Backed (ledger : OutboxLedger) (key : String) : AttemptPoint → Prop
  | .getting (some (.ok (some row))) => ledger.sound key row
  | .publishing row _ => ledger.sound key row
  | .acknowledging row result =>
      ledger.sound key row ∧ (result = some (.ok ()) → ledger.acked key row)
  | .deleting row _ => ledger.sound key row ∧ ledger.acked key row
  | _ => True

/-- Past `acquire`, up to `release`. -/
def AttemptPoint.isPast : AttemptPoint → Bool
  | .acquired => true
  | .enqueuing _ => true
  | .getting _ => true
  | .publishing _ _ => true
  | .acknowledging _ _ => true
  | .deleting _ _ => true
  | _ => false

def AttemptPoint.isGranted : AttemptPoint → Bool
  | .granted => true
  | _ => false

def AttemptPoint.isSettled : AttemptPoint → Bool
  | .settled _ => true
  | _ => false

/-- The task has one of the slots that `active` counts. -/
def AttemptTask.holds (task : AttemptTask) : Bool := task.point.isPast || task.point.isGranted

/-- The invariant of one outbox: what it has kept is backed by the ledger, its holders fit its
slots, and the attempt that a key's entry names is the only one that has not settled. -/
structure Outbox.Sound (ledger : OutboxLedger) (outbox : Outbox) : Prop where
  keys : ∀ key ∈ outbox.keys, ledger.held key
  listed : ∀ stored, outbox.loading = some (.listing (some (.ok stored))) →
    ∀ key ∈ stored, ledger.held key
  rows : ∀ task ∈ outbox.enqueueTasks, ledger.sound task.key task.row
  enqueues : ∀ task ∈ outbox.enqueueTasks, task.point.Backed ledger task.key
  attempts : ∀ task ∈ outbox.attemptTasks, task.point.Backed ledger task.key
  holders : outbox.attemptTasks.countP AttemptTask.holds ≤ outbox.active
  bounded : outbox.active ≤ outbox.concurrency
  registered : ∀ index task, outbox.attemptTasks[index]? = some task →
    task.point.isSettled = false → outbox.attempts.get? task.key = some index
  queued : ∀ index ∈ outbox.waiting, ∃ key, outbox.attemptTasks[index]? = some ⟨key, .waiting⟩
  distinct : outbox.waiting.Nodup

section

variable {ledger next : OutboxLedger} {outbox : Outbox} {task : Nat}

theorem EnqueuePoint.Backed.mono {key : String} {point : EnqueuePoint}
    (h : point.Backed ledger key) (hgrows : ledger.Grows next) : point.Backed next key := by
  unfold EnqueuePoint.Backed at h ⊢
  split
  · exact hgrows.held _ h
  · exact hgrows.held _ h
  · exact hgrows.held _ h
  · trivial

theorem AttemptPoint.Backed.mono {key : String} {point : AttemptPoint}
    (h : point.Backed ledger key) (hgrows : ledger.Grows next) : point.Backed next key := by
  unfold AttemptPoint.Backed at h ⊢
  split
  · exact hgrows.sound _ _ h
  · exact hgrows.sound _ _ h
  · exact ⟨hgrows.sound _ _ h.1, fun heq => hgrows.acked _ _ (h.2 heq)⟩
  · exact ⟨hgrows.sound _ _ h.1, hgrows.acked _ _ h.2⟩
  · trivial

theorem AttemptTask.not_settled_of_holds {entry : AttemptTask} (h : entry.holds = true) :
    entry.point.isSettled = false := by
  obtain ⟨key, point⟩ := entry
  cases point with
  | settled result => cases h
  | _ => rfl

private theorem mem_modify {α : Type} {l : List α} {i : Nat} {f : α → α} {x : α}
    (h : x ∈ l.modify i f) : x ∈ l ∨ ∃ a, l[i]? = some a ∧ x = f a := by
  induction l generalizing i with
  | nil => simp at h
  | cons a rest ih =>
      cases i with
      | zero =>
          rw [List.modify_zero_cons, List.mem_cons] at h
          rcases h with rfl | hrest
          · exact Or.inr ⟨a, rfl, rfl⟩
          · exact Or.inl (List.mem_cons_of_mem a hrest)
      | succ i =>
          rw [List.modify_succ_cons, List.mem_cons] at h
          rcases h with rfl | hrest
          · exact Or.inl List.mem_cons_self
          · rcases ih hrest with hmem | ⟨b, hget, heq⟩
            · exact Or.inl (List.mem_cons_of_mem a hmem)
            · exact Or.inr ⟨b, by simpa using hget, heq⟩

private theorem countP_modify {α : Type} {l : List α} {i : Nat} {f : α → α} {p : α → Bool} {a : α}
    (h : l[i]? = some a) :
    (l.modify i f).countP p + (if p a then 1 else 0) = l.countP p + (if p (f a) then 1 else 0) := by
  induction l generalizing i with
  | nil => simp at h
  | cons b rest ih =>
      cases i with
      | zero =>
          have hb : b = a := by simpa using h
          subst hb
          rw [List.modify_zero_cons, List.countP_cons, List.countP_cons]
          omega
      | succ i =>
          have hrest : rest[i]? = some a := by simpa using h
          rw [List.modify_succ_cons, List.countP_cons, List.countP_cons]
          have := ih hrest
          omega

theorem Outbox.Sound.mono (h : outbox.Sound ledger) (hgrows : ledger.Grows next) :
    outbox.Sound next where
  keys := fun key hmem => hgrows.held _ (h.keys key hmem)
  listed := fun stored heq key hmem => hgrows.held _ (h.listed stored heq key hmem)
  rows := fun task hmem => hgrows.sound _ _ (h.rows task hmem)
  enqueues := fun task hmem => (h.enqueues task hmem).mono hgrows
  attempts := fun task hmem => (h.attempts task hmem).mono hgrows
  holders := h.holders
  bounded := h.bounded
  registered := h.registered
  queued := h.queued
  distinct := h.distinct

/-- A change to the parts the invariant does not mention. -/
theorem Outbox.Sound.frame {other : Outbox} (h : outbox.Sound ledger)
    (hkeys : ∀ key ∈ other.keys, ledger.held key)
    (hlisted : ∀ stored, other.loading = some (.listing (some (.ok stored))) →
      ∀ key ∈ stored, ledger.held key)
    (henqueues : other.enqueueTasks = outbox.enqueueTasks)
    (hattempts : other.attemptTasks = outbox.attemptTasks)
    (hactive : other.active = outbox.active) (hconcurrency : other.concurrency = outbox.concurrency)
    (hregistry : other.attempts = outbox.attempts) (hwaiting : other.waiting = outbox.waiting) :
    other.Sound ledger where
  keys := hkeys
  listed := hlisted
  rows := by rw [henqueues]; exact h.rows
  enqueues := by rw [henqueues]; exact h.enqueues
  attempts := by rw [hattempts]; exact h.attempts
  holders := by rw [hattempts, hactive]; exact h.holders
  bounded := by rw [hactive, hconcurrency]; exact h.bounded
  registered := by rw [hattempts, hregistry]; exact h.registered
  queued := by rw [hattempts, hwaiting]; exact h.queued
  distinct := by rw [hwaiting]; exact h.distinct

theorem Outbox.Sound.schedule (h : outbox.Sound ledger) : outbox.schedule.Sound ledger :=
  h.frame h.keys h.listed rfl rfl rfl rfl rfl rfl

theorem Outbox.Sound.addKey {key : String} (h : outbox.Sound ledger) (hkey : ledger.held key) :
    (outbox.addKey key).Sound ledger := by
  refine h.frame ?_ h.listed rfl rfl rfl rfl rfl rfl
  intro other hmem
  unfold Outbox.addKey at hmem
  split at hmem
  · exact h.keys other hmem
  · rcases List.mem_append.mp hmem with hold | hnew
    · exact h.keys other hold
    · rw [List.mem_singleton.mp hnew]
      exact hkey

theorem Outbox.Sound.deleteKey {key : String} (h : outbox.Sound ledger) :
    (outbox.deleteKey key).Sound ledger :=
  h.frame (fun other hmem => h.keys other (List.mem_filter.mp hmem).1) h.listed rfl rfl rfl rfl rfl
    rfl

theorem Outbox.Sound.setEnqueue {point : EnqueuePoint} (h : outbox.Sound ledger)
    (hpoint : ∀ entry, outbox.enqueueTasks[task]? = some entry → point.Backed ledger entry.key) :
    (outbox.setEnqueue task point).Sound ledger where
  keys := h.keys
  listed := h.listed
  rows := by
    intro entry hmem
    rcases mem_modify hmem with hold | ⟨old, hget, rfl⟩
    · exact h.rows entry hold
    · exact h.rows old (List.mem_of_getElem? hget)
  enqueues := by
    intro entry hmem
    rcases mem_modify hmem with hold | ⟨old, hget, rfl⟩
    · exact h.enqueues entry hold
    · exact hpoint old hget
  attempts := h.attempts
  holders := h.holders
  bounded := h.bounded
  registered := h.registered
  queued := h.queued
  distinct := h.distinct

private theorem getElem?_modify_cases {α : Type} {l : List α} {i j : Nat} {f : α → α} {x : α}
    (h : (l.modify i f)[j]? = some x) :
    l[j]? = some x ∧ i ≠ j ∨ i = j ∧ ∃ a, l[j]? = some a ∧ x = f a := by
  rw [List.getElem?_modify] at h
  cases hget : l[j]? with
  | none =>
      rw [hget] at h
      cases h
  | some a =>
      rw [hget] at h
      by_cases heq : i = j
      · exact Or.inr ⟨heq, a, rfl, by simpa [heq] using h.symm⟩
      · exact Or.inl ⟨by simpa [heq] using h, heq⟩

/-- A task that is not in the queue moves on. It must be backed at its new point and may not
take a slot it did not have. -/
theorem Outbox.Sound.setAttempt {entry : AttemptTask} {point : AttemptPoint}
    (h : outbox.Sound ledger) (hentry : outbox.attemptTasks[task]? = some entry)
    (hwaiting : entry.point ≠ .waiting) (hpoint : point.Backed ledger entry.key)
    (hsettled : point.isSettled = false → entry.point.isSettled = false)
    (hholds : outbox.attemptTasks.countP AttemptTask.holds +
      (if (AttemptTask.mk entry.key point).holds then 1 else 0) ≤
        outbox.active + (if entry.holds then 1 else 0)) :
    (outbox.setAttempt task point).Sound ledger where
  keys := h.keys
  listed := h.listed
  rows := h.rows
  enqueues := h.enqueues
  attempts := by
    intro other hmem
    rcases mem_modify hmem with hold | ⟨old, hget, rfl⟩
    · exact h.attempts other hold
    · rw [hentry] at hget
      cases hget
      exact hpoint
  holders := by
    have hcount := countP_modify (f := fun entry => { entry with point := point })
      (p := AttemptTask.holds) hentry
    show (outbox.attemptTasks.modify task _).countP AttemptTask.holds ≤ outbox.active
    omega
  bounded := h.bounded
  registered := by
    intro index other hget hopen
    rcases getElem?_modify_cases hget with ⟨hsame, -⟩ | ⟨rfl, old, hold, rfl⟩
    · exact h.registered index other hsame hopen
    · rw [hentry] at hold
      cases hold
      exact h.registered task entry hentry (hsettled hopen)
  queued := by
    intro index hmem
    obtain ⟨key, hget⟩ := h.queued index hmem
    refine ⟨key, ?_⟩
    have hne : task ≠ index := by
      rintro rfl
      rw [hentry] at hget
      cases hget
      exact hwaiting rfl
    show (outbox.attemptTasks.modify task _)[index]? = _
    rw [List.getElem?_modify, hget]
    simp [hne]
  distinct := h.distinct

/-- A slot that no task holds is passed on or given back. -/
theorem Outbox.Sound.release (h : outbox.Sound ledger)
    (hfree : outbox.attemptTasks.countP AttemptTask.holds + 1 ≤ outbox.active) :
    outbox.release.Sound ledger := by
  have hholders : outbox.attemptTasks.countP AttemptTask.holds ≤ outbox.active - 1 := by omega
  have hbounded : outbox.active - 1 ≤ outbox.concurrency := by
    have := h.bounded
    omega
  unfold Outbox.release
  cases hwaiting : outbox.waiting with
  | nil =>
      refine { h with holders := hholders, bounded := hbounded, queued := ?_, distinct := ?_ }
      · intro index hmem
        cases hmem
      · exact List.nodup_nil
  | cons next rest =>
      have hdistinct : (next :: rest).Nodup := hwaiting ▸ h.distinct
      obtain ⟨hnext, hrest⟩ := List.nodup_cons.mp hdistinct
      have hqueued : ∀ index ∈ rest, ∃ key, outbox.attemptTasks[index]? = some ⟨key, .waiting⟩ :=
        fun index hmem => h.queued index (hwaiting ▸ List.mem_cons_of_mem next hmem)
      dsimp only
      split
      · exact { h with
          holders := hholders, bounded := hbounded, queued := hqueued, distinct := hrest }
      · have hpopped : ({ outbox with waiting := rest } : Outbox).Sound ledger :=
          { h with queued := hqueued, distinct := hrest }
        obtain ⟨key, hget⟩ := h.queued next (hwaiting ▸ List.mem_cons_self)
        refine
          { keys := h.keys, listed := h.listed, rows := h.rows, enqueues := h.enqueues
            attempts := ?_, holders := ?_, bounded := h.bounded, registered := ?_
            queued := ?_, distinct := hrest }
        · intro other hmem
          rcases mem_modify hmem with hold | ⟨old, -, rfl⟩
          · exact h.attempts other hold
          · trivial
        · have hcount := countP_modify (f := fun entry => { entry with point := .granted })
            (p := AttemptTask.holds) hget
          have hone : (if (AttemptTask.mk key .granted).holds then 1 else 0) = 1 := rfl
          have hnone : (if (AttemptTask.mk key .waiting).holds then 1 else 0) = 0 := rfl
          show (outbox.attemptTasks.modify next _).countP AttemptTask.holds ≤ outbox.active
          rw [hone, hnone] at hcount
          omega
        · intro index other hother hopen
          rcases getElem?_modify_cases hother with ⟨hsame, -⟩ | ⟨rfl, old, hold, rfl⟩
          · exact h.registered index other hsame hopen
          · rw [hget] at hold
            cases hold
            exact h.registered next ⟨key, .waiting⟩ hget rfl
        · intro index hmem
          obtain ⟨other, hother⟩ := hqueued index hmem
          have hne : next ≠ index := by
            rintro rfl
            exact hnext hmem
          refine ⟨other, ?_⟩
          show (outbox.attemptTasks.modify next _)[index]? = _
          rw [List.getElem?_modify, hother]
          simp [hne]

/-- The end of an attempt that was past `acquire`. -/
theorem Outbox.Sound.leave {entry : AttemptTask} {result : Outcome VerifiedEvent}
    (h : outbox.Sound ledger) (hentry : outbox.attemptTasks[task]? = some entry)
    (hpast : entry.point.isPast = true) : (outbox.leave task result).Sound ledger := by
  have hholds : entry.holds = true := by
    unfold AttemptTask.holds
    rw [hpast]
    rfl
  have hwaiting : entry.point ≠ .waiting := by
    intro heq
    rw [heq] at hpast
    cases hpast
  have hcount := countP_modify (f := fun entry => { entry with point := .finished result })
    (p := AttemptTask.holds) hentry
  have hzero : (if (AttemptTask.mk entry.key (.finished result)).holds then 1 else 0) = 0 := rfl
  rw [hzero, hholds, if_pos rfl] at hcount
  have hholders := h.holders
  have hset : (outbox.setAttempt task (.finished result)).Sound ledger := by
    refine h.setAttempt hentry hwaiting trivial
      (fun _ => AttemptTask.not_settled_of_holds hholds) ?_
    rw [hzero, hholds, if_pos rfl]
    omega
  refine (hset.release ?_).schedule
  show (outbox.attemptTasks.modify task _).countP AttemptTask.holds + 1 ≤ outbox.active
  omega

private theorem getElem?_append_singleton {α : Type} {l : List α} {a x : α} {i : Nat}
    (h : (l ++ [a])[i]? = some x) : l[i]? = some x ∨ i = l.length ∧ x = a := by
  rcases Nat.lt_or_ge i l.length with hlt | hge
  · rw [List.getElem?_append_left hlt] at h
    exact Or.inl h
  · rw [List.getElem?_append_right hge] at h
    cases hsub : i - l.length with
    | zero =>
        rw [hsub] at h
        exact Or.inr ⟨by omega, by simpa using h.symm⟩
    | succ n =>
        rw [hsub] at h
        cases h

private theorem getElem?_append_of_some {α : Type} {l m : List α} {x : α} {i : Nat}
    (h : l[i]? = some x) : (l ++ m)[i]? = some x := by
  obtain ⟨hlt, -⟩ := List.getElem?_eq_some_iff.mp h
  rw [List.getElem?_append_left hlt]
  exact h

/-- A fresh attempt of a key that has none. -/
theorem Outbox.Sound.push {key : String} {point : AttemptPoint} {active : Nat}
    {waiting : List Nat} (h : outbox.Sound ledger) (hfresh : outbox.attempts.get? key = none)
    (hpoint : point.Backed ledger key)
    (hholders : outbox.attemptTasks.countP AttemptTask.holds +
      (if (AttemptTask.mk key point).holds then 1 else 0) ≤ active)
    (hbounded : active ≤ outbox.concurrency)
    (hwaiting : ∀ index ∈ waiting, index ∈ outbox.waiting ∨
      index = outbox.attemptTasks.length ∧ point = .waiting) (hdistinct : waiting.Nodup) :
    ({ outbox with
        attempts := outbox.attempts.insert key outbox.attemptTasks.length
        active := active
        waiting := waiting
        attemptTasks := outbox.attemptTasks ++ [⟨key, point⟩] } : Outbox).Sound ledger where
  keys := h.keys
  listed := h.listed
  rows := h.rows
  enqueues := h.enqueues
  attempts := by
    intro other hmem
    rcases List.mem_append.mp hmem with hold | hnew
    · exact h.attempts other hold
    · rw [List.mem_singleton.mp hnew]
      exact hpoint
  holders := by
    show (outbox.attemptTasks ++ [AttemptTask.mk key point]).countP AttemptTask.holds ≤ active
    rw [List.countP_append, List.countP_singleton]
    exact hholders
  bounded := hbounded
  registered := by
    intro index other hget hopen
    show (outbox.attempts.insert key outbox.attemptTasks.length).get? other.key = some index
    rcases getElem?_append_singleton hget with hold | ⟨rfl, rfl⟩
    · have hother := h.registered index other hold hopen
      rw [SortedMap.get?_insert_ne]
      · exact hother
      · rintro rfl
        rw [hfresh] at hother
        cases hother
    · exact SortedMap.get?_insert_self _ _ _
  queued := by
    intro index hmem
    rcases hwaiting index hmem with hold | ⟨rfl, rfl⟩
    · obtain ⟨other, hget⟩ := h.queued index hold
      exact ⟨other, getElem?_append_of_some hget⟩
    · exact ⟨key, by simp⟩
  distinct := hdistinct

theorem Outbox.Sound.attempt {key : String} (h : outbox.Sound ledger) :
    (outbox.attempt key).1.Sound ledger := by
  have hholders := h.holders
  have hbounded := h.bounded
  unfold Outbox.attempt
  cases hfresh : outbox.attempts.get? key with
  | some other => exact h
  | none =>
      dsimp only
      split
      · exact h.push hfresh trivial hholders hbounded (fun index hmem => Or.inl hmem) h.distinct
      · split
        · refine h.push hfresh trivial ?_ (by omega) (fun index hmem => Or.inl hmem) h.distinct
          exact Nat.succ_le_succ hholders
        · refine h.push hfresh trivial hholders hbounded ?_ ?_
          · intro index hmem
            rcases List.mem_append.mp hmem with hold | hnew
            · exact Or.inl hold
            · exact Or.inr ⟨List.mem_singleton.mp hnew, rfl⟩
          · refine List.nodup_append.mpr ⟨h.distinct, List.nodup_singleton _, ?_⟩
            intro index hmem other hother
            rw [List.mem_singleton.mp hother]
            obtain ⟨_, hget⟩ := h.queued index hmem
            obtain ⟨hlt, -⟩ := List.getElem?_eq_some_iff.mp hget
            omega

theorem Outbox.Sound.load (h : outbox.Sound ledger) : outbox.load.1.Sound ledger := by
  unfold Outbox.load
  split
  · exact h
  · split
    · exact h
    · split
      · exact h
      · refine h.frame h.keys ?_ rfl rfl rfl rfl rfl rfl
        intro stored heq
        cases heq

private theorem foldl_addKey (stored : List String) (outbox : Outbox) :
    ∃ keys, stored.foldl Outbox.addKey outbox = { outbox with keys := keys } ∧
      ∀ key ∈ keys, key ∈ outbox.keys ∨ key ∈ stored := by
  induction stored generalizing outbox with
  | nil => exact ⟨outbox.keys, rfl, fun key hmem => Or.inl hmem⟩
  | cons first rest ih =>
      obtain ⟨keys, heq, hkeys⟩ := ih (outbox.addKey first)
      refine ⟨keys, heq, ?_⟩
      intro key hmem
      rcases hkeys key hmem with hold | hrest
      · unfold Outbox.addKey at hold
        split at hold
        · exact Or.inl hold
        · rcases List.mem_append.mp hold with hold | hnew
          · exact Or.inl hold
          · rw [List.mem_singleton.mp hnew]
            exact Or.inr List.mem_cons_self
      · exact Or.inr (List.mem_cons_of_mem first hrest)

theorem Outbox.Sound.resumeList (h : outbox.Sound ledger) : outbox.resumeList.Sound ledger := by
  have hdone : ∀ result, ∀ stored,
      some (LoadPoint.finished result) = some (.listing (some (.ok stored))) →
        ∀ key ∈ stored, ledger.held key := by
    intro result stored heq
    cases heq
  unfold Outbox.resumeList
  split
  · exact h.frame h.keys (hdone _) rfl rfl rfl rfl rfl rfl
  · next stored hloading =>
      split
      · exact h.frame h.keys (hdone _) rfl rfl rfl rfl rfl rfl
      · obtain ⟨keys, heq, hkeys⟩ := foldl_addKey stored outbox
        rw [heq]
        refine h.frame ?_ (hdone _) rfl rfl rfl rfl rfl rfl
        intro key hmem
        rcases hkeys key hmem with hold | hnew
        · exact h.keys key hold
        · exact h.listed stored hloading key hnew
  · exact h

private theorem wake_backed (result : Outcome Unit) {entry : EnqueueTask}
    (h : entry.point.Backed ledger entry.key) :
    (Outbox.EnqueueTask.wake result entry).key = entry.key ∧
    (Outbox.EnqueueTask.wake result entry).row = entry.row ∧
    (Outbox.EnqueueTask.wake result entry).point.Backed ledger entry.key := by
  unfold Outbox.EnqueueTask.wake
  split
  · exact ⟨rfl, rfl, trivial⟩
  · exact ⟨rfl, rfl, h⟩

theorem Outbox.Sound.finishList (h : outbox.Sound ledger) : outbox.finishList.Sound ledger := by
  unfold Outbox.finishList
  split
  · next result hloading =>
      refine { h with listed := ?_, rows := ?_, enqueues := ?_ }
      · intro stored heq
        cases heq
      · intro entry hmem
        obtain ⟨old, hold, rfl⟩ := List.mem_map.mp hmem
        obtain ⟨hkey, hrow, -⟩ := wake_backed result (h.enqueues old hold)
        rw [hkey, hrow]
        exact h.rows old hold
      · intro entry hmem
        obtain ⟨old, hold, rfl⟩ := List.mem_map.mp hmem
        obtain ⟨hkey, -, hpoint⟩ := wake_backed result (h.enqueues old hold)
        rw [hkey]
        exact hpoint
  · exact h

/-- The rows that `enqueue` has cloned must be known to the ledger. -/
theorem Outbox.Sound.enqueue {event : VerifiedEvent} {innerEventId : Option String}
    {context : Option NostrPublishContext} (h : outbox.Sound ledger)
    (hrows : ∀ row ∈ (outbox.enqueue event innerEventId context).2.1,
      ledger.sound row.event.id row) :
    (outbox.enqueue event innerEventId context).1.Sound ledger := by
  unfold Outbox.enqueue at hrows ⊢
  split
  · exact h
  · split
    · exact h
    · split
      · exact h
      · next hopen hsigned hprivate =>
          rw [if_neg hopen, if_neg hsigned, if_neg hprivate] at hrows
          cases hexisting : outbox.enqueuing.get? event.id with
          | some other => exact h
          | none =>
              rw [hexisting] at hrows
              have hsound := hrows _ List.mem_cons_self
              have hload := h.load
              refine { hload with rows := ?_, enqueues := ?_ }
              · intro entry hmem
                rcases List.mem_append.mp hmem with hold | hnew
                · exact hload.rows entry hold
                · rw [List.mem_singleton.mp hnew]
                  exact hsound
              · intro entry hmem
                rcases List.mem_append.mp hmem with hold | hnew
                · exact hload.enqueues entry hold
                · rw [List.mem_singleton.mp hnew]
                  dsimp only
                  split
                  · trivial
                  · trivial

theorem Outbox.Sound.resumeEnqueue (h : outbox.Sound ledger) :
    (outbox.resumeEnqueue task).Sound ledger := by
  unfold Outbox.resumeEnqueue
  cases hentry : outbox.enqueueTasks[task]? with
  | none => exact h
  | some entry =>
      obtain ⟨key, row, point⟩ := entry
      have hbacked := h.enqueues _ (List.mem_of_getElem? hentry)
      -- the task's own key is the one its new point speaks of
      have hmove : ∀ {other : Outbox} {point : EnqueuePoint}, other.Sound ledger →
          other.enqueueTasks = outbox.enqueueTasks → point.Backed ledger key →
            (other.setEnqueue task point).Sound ledger := by
        intro other point hother htasks hpoint
        refine hother.setEnqueue ?_
        intro found hfound
        rw [htasks, hentry] at hfound
        cases hfound
        exact hpoint
      match point, hbacked with
      | .loading, _ => exact h
      | .loaded (.error error), _ => exact hmove h rfl trivial
      | .loaded (.ok ()), _ =>
          dsimp only
          split
          · exact hmove h rfl trivial
          · split
            · next hmem => exact hmove h.schedule rfl (h.keys _ (List.contains_iff_mem.mp hmem))
            · exact hmove h rfl trivial
      | .putting none, _ => exact h
      | .putting (some (.error error)), _ => exact hmove h rfl trivial
      | .putting (some (.ok ())), hheld =>
          dsimp only
          split
          · exact hmove h rfl trivial
          · exact hmove (h.addKey hheld).schedule rfl hheld
      | .finished result, hfinished =>
          have hsettled : (EnqueuePoint.settled result).Backed ledger key := by
            cases result with
            | error error => trivial
            | ok _ => exact hfinished
          have hset := hmove h rfl hsettled
          exact hset.frame hset.keys hset.listed rfl rfl rfl rfl rfl rfl
      | .settled result, _ => exact h

private theorem holds_of_past {entry : AttemptTask} (h : entry.point.isPast = true) :
    entry.holds = true := by
  unfold AttemptTask.holds
  rw [h]
  rfl

/-- A task past `acquire` that stays there. -/
private theorem stay {entry : AttemptTask} {point : AttemptPoint} (h : outbox.Sound ledger)
    (hentry : outbox.attemptTasks[task]? = some entry) (hpast : entry.point.isPast = true)
    (hpoint : point.Backed ledger entry.key) : (outbox.setAttempt task point).Sound ledger := by
  have hholds := holds_of_past hpast
  refine h.setAttempt hentry ?_ hpoint
    (fun _ => AttemptTask.not_settled_of_holds hholds) ?_
  · intro heq
    rw [heq] at hpast
    cases hpast
  · rw [hholds, if_pos rfl]
    have := h.holders
    split <;> omega

theorem Outbox.Sound.resumeAttempt (h : outbox.Sound ledger) :
    (outbox.resumeAttempt task).1.Sound ledger := by
  unfold Outbox.resumeAttempt
  cases hentry : outbox.attemptTasks[task]? with
  | none => exact h
  | some entry =>
      obtain ⟨key, point⟩ := entry
      have hholders := h.holders
      have hbacked := h.attempts _ (List.mem_of_getElem? hentry)
      match point, hbacked with
      | .waiting, _ => exact h
      | .granted, _ =>
          have hmoved : ∀ point : AttemptPoint, point.Backed ledger key →
              (outbox.setAttempt task point).Sound ledger := by
            intro point hnew
            refine h.setAttempt hentry AttemptPoint.noConfusion hnew (fun _ => rfl) ?_
            have hone : (AttemptTask.mk key .granted).holds = true := rfl
            rw [hone, if_pos rfl]
            split <;> omega
          dsimp only
          split
          · exact hmoved _ trivial
          · exact hmoved _ trivial
      | .refused error, _ =>
          refine h.setAttempt hentry AttemptPoint.noConfusion trivial (fun _ => rfl) ?_
          have hzero : (AttemptTask.mk key (.finished (.error error))).holds = false := rfl
          rw [hzero, if_neg (by decide)]
          omega
      | .acquired, _ =>
          dsimp only
          split
          · exact h.leave hentry rfl
          · exact stay h hentry rfl trivial
      | .enqueuing awaited, _ =>
          dsimp only
          split
          · exact h
          · exact h.leave hentry rfl
          · exact stay h hentry rfl trivial
      | .getting none, _ => exact h
      | .getting (some (.error error)), _ => exact h.leave hentry rfl
      | .getting (some (.ok none)), _ =>
          dsimp only
          split
          · exact h.leave hentry rfl
          · exact h.deleteKey.leave hentry rfl
      | .getting (some (.ok (some row))), hrow =>
          dsimp only
          split
          · exact h.leave hentry rfl
          · split
            · have hblocked : ({ outbox with blocked := key :: outbox.blocked } :
                  Outbox).Sound ledger := h.frame h.keys h.listed rfl rfl rfl rfl rfl rfl
              exact hblocked.deleteKey.leave hentry rfl
            · exact stay h hentry rfl hrow
      | .publishing row none, _ => exact h
      | .publishing row (some (.error error)), _ => exact h.leave hentry rfl
      | .publishing row (some (.ok (id, sig))), hrow =>
          dsimp only
          split
          · exact h.leave hentry rfl
          · split
            · exact h.leave hentry rfl
            · exact stay h hentry rfl ⟨hrow, fun heq => by cases heq⟩
      | .acknowledging row none, _ => exact h
      | .acknowledging row (some (.error error)), _ => exact h.leave hentry rfl
      | .acknowledging row (some (.ok ())), hrow =>
          dsimp only
          split
          · exact h.leave hentry rfl
          · exact stay h hentry rfl ⟨hrow.1, hrow.2 rfl⟩
      | .deleting row none, _ => exact h
      | .deleting row (some (.error error)), _ => exact h.leave hentry rfl
      | .deleting row (some (.ok ())), _ =>
          dsimp only
          split
          · exact h.leave hentry rfl
          · exact h.deleteKey.leave hentry rfl
      | .finished result, _ =>
          have hset : (outbox.setAttempt task (.settled result)).Sound ledger := by
            refine h.setAttempt hentry AttemptPoint.noConfusion trivial
              (fun hnot => by cases hnot) ?_
            have hzero : (AttemptTask.mk key (.settled result)).holds = false := rfl
            rw [hzero, if_neg (by decide)]
            omega
          refine { hset with registered := ?_ }
          intro index other hget hother
          have hregistered := hset.registered index other hget hother
          show (outbox.attempts.erase key).get? other.key = some index
          rw [SortedMap.get?_erase_ne]
          · exact hregistered
          · -- the only open attempt of this key was the one that settles
            intro heq
            rcases getElem?_modify_cases hget with ⟨-, hne⟩ | ⟨-, old, -, rfl⟩
            · have hown : outbox.attempts.get? key = some task :=
                h.registered task _ hentry rfl
              rw [heq] at hown
              have hsame : some task = some index := hown.symm.trans hregistered
              exact hne (Option.some.inj hsame)
            · cases hother
      | .settled result, _ => exact h

theorem Outbox.Sound.publish {event : VerifiedEvent} {innerEventId : Option String}
    {context : Option NostrPublishContext} (h : outbox.Sound ledger)
    (hrows : ∀ row ∈ (outbox.publish event innerEventId context).2,
      ledger.sound row.event.id row) :
    (outbox.publish event innerEventId context).1.Sound ledger := by
  have hqueued : (outbox.enqueue event innerEventId context).1.Sound ledger := h.enqueue hrows
  exact hqueued.frame hqueued.keys hqueued.listed rfl rfl rfl rfl rfl rfl

theorem Outbox.Sound.resumePublish (h : outbox.Sound ledger) :
    (outbox.resumePublish task).Sound ledger := by
  have hset : ∀ {other : Outbox} (point : PublishPoint), other.Sound ledger →
      (other.setPublish task point).Sound ledger :=
    fun _ hother => hother.frame hother.keys hother.listed rfl rfl rfl rfl rfl rfl
  unfold Outbox.resumePublish
  split
  · exact h
  · split
    · split
      · exact h
      · exact hset _ h
      · split
        · exact hset _ h
        · exact hset _ h.attempt
    · exact h

theorem Outbox.Sound.retry (h : outbox.Sound ledger) : outbox.retry.Sound ledger := by
  unfold Outbox.retry
  split
  · exact h
  · have hload := h.load
    exact hload.frame hload.keys hload.listed rfl rfl rfl rfl rfl rfl

theorem Outbox.Sound.retrying {point : Option RetryPoint} (h : outbox.Sound ledger) :
    ({ outbox with retrying := point } : Outbox).Sound ledger :=
  h.frame h.keys h.listed rfl rfl rfl rfl rfl rfl

theorem Outbox.Sound.resumeRetry (h : outbox.Sound ledger) : outbox.resumeRetry.Sound ledger := by
  unfold Outbox.resumeRetry
  split
  · exact h.retrying.schedule
  · exact h.retrying
  · split
    · exact h.retrying.schedule
    · exact h
  · exact h

theorem Outbox.Sound.resumeWorker {worker : Nat} (h : outbox.Sound ledger) :
    (outbox.resumeWorker worker).Sound ledger := by
  unfold Outbox.resumeWorker
  split
  · dsimp only
    split
    · split
      · exact h.attempt.retrying
      · exact h.retrying
    · split
      · split
        · exact h.attempt.retrying
        · exact h.retrying
      · exact h
    · exact h
  · exact h

theorem Outbox.Sound.timerFires (h : outbox.Sound ledger) : outbox.timerFires.Sound ledger := by
  unfold Outbox.timerFires
  split
  · have hoff : ({ outbox with timer := false } : Outbox).Sound ledger :=
      h.frame h.keys h.listed rfl rfl rfl rfl rfl rfl
    exact hoff.retry
  · exact h

private theorem close_task {entry : AttemptTask} (h : entry.point.Backed ledger entry.key) :
    (Outbox.AttemptTask.close entry).key = entry.key ∧
    (Outbox.AttemptTask.close entry).point.Backed ledger entry.key ∧
    (Outbox.AttemptTask.close entry).holds = entry.holds ∧
    (Outbox.AttemptTask.close entry).point.isSettled = entry.point.isSettled := by
  obtain ⟨key, point⟩ := entry
  unfold Outbox.AttemptTask.close
  dsimp only at h ⊢
  split
  · exact ⟨rfl, trivial, rfl, rfl⟩
  · exact ⟨rfl, h, rfl, rfl⟩
  · exact ⟨rfl, h, rfl, rfl⟩

theorem Outbox.Sound.close (h : outbox.Sound ledger) : outbox.close.Sound ledger where
  keys := h.keys
  listed := h.listed
  rows := h.rows
  enqueues := h.enqueues
  attempts := by
    intro entry hmem
    obtain ⟨old, hold, rfl⟩ := List.mem_map.mp hmem
    obtain ⟨hkey, hpoint, -⟩ := close_task (h.attempts old hold)
    rw [hkey]
    exact hpoint
  holders := by
    show (outbox.attemptTasks.map Outbox.AttemptTask.close).countP AttemptTask.holds ≤
      outbox.active
    rw [List.countP_map]
    refine Nat.le_trans (Nat.le_of_eq ?_) h.holders
    refine List.countP_congr ?_
    intro entry hmem
    obtain ⟨-, -, hholds, -⟩ := close_task (h.attempts entry hmem)
    show (Outbox.AttemptTask.close entry).holds = true ↔ _
    rw [hholds]
  bounded := h.bounded
  registered := by
    intro index entry hget hopen
    have hmap : (outbox.attemptTasks.map Outbox.AttemptTask.close)[index]? = some entry := hget
    rw [List.getElem?_map] at hmap
    cases hold : outbox.attemptTasks[index]? with
    | none =>
        rw [hold] at hmap
        cases hmap
    | some old =>
        rw [hold] at hmap
        cases hmap
        obtain ⟨hkey, -, -, hsettled⟩ := close_task (h.attempts old (List.mem_of_getElem? hold))
        rw [hkey]
        exact h.registered index old hold (hsettled ▸ hopen)
  queued := by
    intro index hmem
    cases hmem
  distinct := List.nodup_nil

theorem Outbox.sound_create (concurrency : Nat) : (Outbox.create concurrency).Sound ledger where
  keys := by
    intro key hmem
    cases hmem
  listed := by
    intro stored heq
    cases heq
  rows := by
    intro entry hmem
    cases hmem
  enqueues := by
    intro entry hmem
    cases hmem
  attempts := by
    intro entry hmem
    cases hmem
  holders := Nat.le_refl 0
  bounded := Nat.zero_le _
  registered := by
    intro index entry hget
    cases hget
  queued := by
    intro index hmem
    cases hmem
  distinct := List.nodup_nil

end

/-! Runs. -/

namespace OutboxWorld

def ledger (world : OutboxWorld) : OutboxLedger where
  held := fun key => (world.storage.get? key).isSome = true ∨
    ∃ row ∈ world.acked, row.event.id = key
  sound := fun key row => row ∈ world.enqueued ∧ row.event.id = key
  acked := fun key row => row ∈ world.acked ∧ row.event.id = key

structure Sound (world : OutboxWorld) : Prop where
  outboxes : ∀ outbox ∈ world.outboxes, outbox.Sound world.ledger
  stored : ∀ key row, world.storage.get? key = some row → world.ledger.sound key row
  published : ∀ event ∈ world.published, ∃ row ∈ world.enqueued, row.event = event

theorem grows_refl (ledger : OutboxLedger) : ledger.Grows ledger :=
  ⟨fun _ h => h, fun _ _ h => h, fun _ _ h => h⟩

variable {world : OutboxWorld} {index : Nat}

/-- One outbox changes, and the rest of the world only gains facts. -/
theorem Sound.change {next : OutboxWorld} {outbox : Outbox} (h : world.Sound)
    (hgrows : world.ledger.Grows next.ledger) (houtbox : outbox.Sound next.ledger)
    (houtboxes : next.outboxes = world.outboxes.set index outbox)
    (hstored : ∀ key row, next.storage.get? key = some row → next.ledger.sound key row)
    (hpublished : ∀ event ∈ next.published, ∃ row ∈ next.enqueued, row.event = event) :
    next.Sound where
  outboxes := by
    intro other hmem
    rw [houtboxes] at hmem
    rcases List.mem_or_eq_of_mem_set hmem with hold | rfl
    · exact (h.outboxes other hold).mono hgrows
    · exact houtbox
  stored := hstored
  published := hpublished

theorem Sound.within {f : Outbox → Outbox} (h : world.Sound)
    (hf : ∀ outbox, outbox.Sound world.ledger → (f outbox).Sound world.ledger) :
    (world.within index f).Sound := by
  unfold OutboxWorld.within
  cases hget : world.outboxes[index]? with
  | none => exact h
  | some outbox =>
      exact h.change (grows_refl _) (hf outbox (h.outboxes outbox (List.mem_of_getElem? hget))) rfl
        h.stored h.published

theorem Sound.queue {f : Outbox → Outbox × List PersistentNostrPublication} (h : world.Sound)
    (hf : ∀ outbox (ledger : OutboxLedger), outbox.Sound ledger →
      (∀ row ∈ (f outbox).2, ledger.sound row.event.id row) → (f outbox).1.Sound ledger) :
    (world.queue index f).Sound := by
  unfold OutboxWorld.queue
  cases hget : world.outboxes[index]? with
  | none => exact h
  | some outbox =>
      dsimp only
      generalize hnext : ({ world.setOutbox index (f outbox).1 with
        enqueued := world.enqueued ++ (f outbox).2 } : OutboxWorld) = next
      have hgrows : world.ledger.Grows next.ledger := by
        subst hnext
        exact ⟨fun _ hheld => hheld,
          fun _ _ hsound => ⟨List.mem_append_left _ hsound.1, hsound.2⟩, fun _ _ hacked => hacked⟩
      have hrows : ∀ row ∈ (f outbox).2, next.ledger.sound row.event.id row := by
        subst hnext
        exact fun row hmem => ⟨List.mem_append_right _ hmem, rfl⟩
      have houtbox : (f outbox).1.Sound next.ledger :=
        hf outbox _ ((h.outboxes outbox (List.mem_of_getElem? hget)).mono hgrows) hrows
      subst hnext
      refine h.change hgrows houtbox rfl ?_ ?_
      · intro key row hrow
        exact hgrows.sound key row (h.stored key row hrow)
      · intro event hmem
        obtain ⟨row, hrow, heq⟩ := h.published event hmem
        exact ⟨row, List.mem_append_left _ hrow, heq⟩

theorem Sound.settleList {failure : Option String} (h : world.Sound) :
    (world.settleList index failure).Sound := by
  unfold OutboxWorld.settleList
  cases hget : world.outboxes[index]? with
  | none => exact h
  | some outbox =>
      have houtbox := h.outboxes outbox (List.mem_of_getElem? hget)
      dsimp only
      split
      · have hset : ({ outbox with
            loading := some (.listing (some (outcomeOf failure world.storage.keys))) } :
              Outbox).Sound world.ledger := by
          refine houtbox.frame houtbox.keys ?_ rfl rfl rfl rfl rfl rfl
          intro stored heq key hmem
          cases failure with
          | some error => cases heq
          | none =>
              cases heq
              obtain ⟨row, hrow⟩ := SortedMap.mem_keys.mp hmem
              refine Or.inl ?_
              show (world.storage.get? key).isSome = true
              rw [hrow]
              rfl
        exact h.change (grows_refl _) hset rfl h.stored h.published
      · exact h

theorem Sound.settlePut {task : Nat} {failure : Option String} (h : world.Sound) :
    (world.settlePut index task failure).Sound := by
  unfold OutboxWorld.settlePut
  cases hget : world.outboxes[index]? with
  | none => exact h
  | some outbox =>
      have houtbox := h.outboxes outbox (List.mem_of_getElem? hget)
      dsimp only
      split
      · next key row hentry =>
          have hsound : world.ledger.sound key row :=
            houtbox.rows _ (List.mem_of_getElem? hentry)
          cases failure with
          | some error =>
              have hset : (outbox.setEnqueue task
                  (.putting (some (.error error)))).Sound world.ledger :=
                houtbox.setEnqueue (fun _ _ => trivial)
              exact h.change (grows_refl _) hset rfl h.stored h.published
          | none =>
              have hput : ∀ other, (world.storage.get? other).isSome = true →
                  ((world.storage.insert key row).get? other).isSome = true := by
                intro other hother
                rw [SortedMap.get?_insert]
                split
                · rfl
                · exact hother
              generalize hnext : ({ world.setOutbox index (outbox.setEnqueue task
                (.putting (some (outcomeOf none ())))) with
                storage := world.storage.insert key row } : OutboxWorld) = next
              have hgrows : world.ledger.Grows next.ledger := by
                subst hnext
                exact ⟨fun other hheld => hheld.imp (hput other) id, fun _ _ hold => hold,
                  fun _ _ hold => hold⟩
              have hheld : next.ledger.held key := by
                subst hnext
                refine Or.inl ?_
                show ((world.storage.insert key row).get? key).isSome = true
                rw [SortedMap.get?_insert_self]
                rfl
              have hset : (outbox.setEnqueue task (.putting (some (.ok ())))).Sound next.ledger := by
                refine (houtbox.mono hgrows).setEnqueue ?_
                intro entry hother
                rw [hentry] at hother
                cases hother
                exact hheld
              subst hnext
              refine h.change hgrows hset rfl ?_ h.published
              intro other found hfound
              have hinserted : (world.storage.insert key row).get? other = some found := hfound
              rw [SortedMap.get?_insert] at hinserted
              split at hinserted
              · next heq =>
                  cases hinserted
                  subst heq
                  exact hsound
              · exact h.stored other found hinserted
      · exact h

theorem Sound.settleAttempt {task : Nat} {failure : Option String}
    {reply : Outcome (String × String)} (h : world.Sound) :
    (world.settleAttempt index task failure reply).Sound := by
  unfold OutboxWorld.settleAttempt
  cases hget : world.outboxes[index]? with
  | none => exact h
  | some outbox =>
      have houtbox := h.outboxes outbox (List.mem_of_getElem? hget)
      dsimp only
      split
      · next key hentry =>
          have hset : (outbox.setAttempt task
              (.getting (some (outcomeOf failure (world.storage.get? key))))).Sound world.ledger := by
            refine stay houtbox hentry rfl ?_
            cases failure with
            | some error => trivial
            | none =>
                cases hstored : world.storage.get? key with
                | none => trivial
                | some row => exact h.stored key row hstored
          exact h.change (grows_refl _) hset rfl h.stored h.published
      · next key row hentry =>
          have hbacked := houtbox.attempts _ (List.mem_of_getElem? hentry)
          have hset : (outbox.setAttempt task
              (.publishing row (some reply))).Sound world.ledger :=
            stay houtbox hentry rfl hbacked
          exact h.change (grows_refl _) hset rfl h.stored h.published
      · next key row hentry =>
          obtain ⟨hsound, -⟩ := houtbox.attempts _ (List.mem_of_getElem? hentry)
          cases failure with
          | some error =>
              have hset : (outbox.setAttempt task
                  (.acknowledging row (some (.error error)))).Sound world.ledger :=
                stay houtbox hentry rfl ⟨hsound, fun heq => by cases heq⟩
              exact h.change (grows_refl _) hset rfl h.stored h.published
          | none =>
              generalize hnext : ({ world.setOutbox index (outbox.setAttempt task
                (.acknowledging row (some (outcomeOf none ())))) with
                acked := row :: world.acked } : OutboxWorld) = next
              have hgrows : world.ledger.Grows next.ledger := by
                subst hnext
                refine ⟨fun key hheld => hheld.imp id ?_, fun _ _ hold => hold,
                  fun _ _ hold => ⟨List.mem_cons_of_mem row hold.1, hold.2⟩⟩
                rintro ⟨other, hmem, heq⟩
                exact ⟨other, List.mem_cons_of_mem row hmem, heq⟩
              have hacked : next.ledger.acked key row := by
                subst hnext
                exact ⟨List.mem_cons_self, hsound.2⟩
              have hset : (outbox.setAttempt task
                  (.acknowledging row (some (.ok ())))).Sound next.ledger :=
                stay (houtbox.mono hgrows) hentry rfl ⟨hgrows.sound _ _ hsound, fun _ => hacked⟩
              subst hnext
              exact h.change hgrows hset rfl h.stored h.published
      · next key row hentry =>
          have hbacked := houtbox.attempts _ (List.mem_of_getElem? hentry)
          obtain ⟨hsound, hacked⟩ := hbacked
          cases failure with
          | some error =>
              have hset : (outbox.setAttempt task
                  (.deleting row (some (.error error)))).Sound world.ledger :=
                stay houtbox hentry rfl ⟨hsound, hacked⟩
              exact h.change (grows_refl _) hset rfl h.stored h.published
          | none =>
              generalize hnext : ({ world.setOutbox index (outbox.setAttempt task
                (.deleting row (some (outcomeOf none ())))) with
                storage := world.storage.erase key } : OutboxWorld) = next
              have hgrows : world.ledger.Grows next.ledger := by
                subst hnext
                refine ⟨fun other hheld => ?_, fun _ _ hold => hold, fun _ _ hold => hold⟩
                by_cases heq : key = other
                · subst heq
                  exact Or.inr ⟨row, hacked.1, hacked.2⟩
                · refine hheld.imp (fun hother => ?_) id
                  show ((world.storage.erase key).get? other).isSome = true
                  rw [SortedMap.get?_erase_ne _ heq]
                  exact hother
              have hset : (outbox.setAttempt task
                  (.deleting row (some (.ok ())))).Sound next.ledger :=
                stay (houtbox.mono hgrows) hentry rfl
                  ⟨hgrows.sound _ _ hsound, hgrows.acked _ _ hacked⟩
              subst hnext
              refine h.change hgrows hset rfl ?_ h.published
              intro other found hfound
              have herased : (world.storage.erase key).get? other = some found := hfound
              rw [SortedMap.get?_erase] at herased
              split at herased
              · cases herased
              · exact h.stored other found herased
      · exact h

/-- What an attempt hands to `publish` is a row it has read. -/
theorem resumeAttempt_published {ledger : OutboxLedger} {outbox : Outbox} {task : Nat}
    (h : outbox.Sound ledger) :
    ∀ event ∈ (outbox.resumeAttempt task).2, ∃ key row, ledger.sound key row ∧ row.event = event := by
  unfold Outbox.resumeAttempt
  cases hentry : outbox.attemptTasks[task]? with
  | none => simp
  | some entry =>
      obtain ⟨key, point⟩ := entry
      have hbacked := h.attempts _ (List.mem_of_getElem? hentry)
      match point, hbacked with
      | .getting (some (.ok (some row))), hrow =>
          intro event hmem
          dsimp only at hmem
          split at hmem
          · cases hmem
          · split at hmem
            · cases hmem
            · rw [List.mem_singleton.mp hmem]
              exact ⟨key, row, hrow, rfl⟩
      | .enqueuing awaited, _ =>
          dsimp only
          split
          · simp
          · simp
          · simp
      | .waiting, _ => simp
      | .granted, _ =>
          dsimp only
          split
          · simp
          · simp
      | .refused error, _ => simp
      | .acquired, _ =>
          dsimp only
          split
          · simp
          · simp
      | .getting none, _ => simp
      | .getting (some (.error error)), _ => simp
      | .getting (some (.ok none)), _ =>
          dsimp only
          split
          · simp
          · simp
      | .publishing row none, _ => simp
      | .publishing row (some (.error error)), _ => simp
      | .publishing row (some (.ok (id, sig))), _ =>
          dsimp only
          split
          · simp
          · split
            · simp
            · simp
      | .acknowledging row none, _ => simp
      | .acknowledging row (some (.error error)), _ => simp
      | .acknowledging row (some (.ok ())), _ =>
          dsimp only
          split
          · simp
          · simp
      | .deleting row none, _ => simp
      | .deleting row (some (.error error)), _ => simp
      | .deleting row (some (.ok ())), _ =>
          dsimp only
          split
          · simp
          · simp
      | .finished result, _ => simp
      | .settled result, _ => simp

theorem Sound.resumeAttempt {task : Nat} (h : world.Sound) :
    (world.resumeAttempt index task).Sound := by
  unfold OutboxWorld.resumeAttempt
  cases hget : world.outboxes[index]? with
  | none => exact h
  | some outbox =>
      have houtbox := h.outboxes outbox (List.mem_of_getElem? hget)
      have hset : (outbox.resumeAttempt task).1.Sound world.ledger := houtbox.resumeAttempt
      refine h.change (grows_refl _) hset rfl h.stored ?_
      intro event hmem
      rcases List.mem_append.mp hmem with hold | hnew
      · exact h.published event hold
      · obtain ⟨key, row, hrow, heq⟩ := resumeAttempt_published houtbox event hnew
        exact ⟨row, hrow.1, heq⟩

theorem Sound.step (h : world.Sound) (step : OutboxStep) : (world.step step).Sound := by
  cases step with
  | create concurrency =>
      dsimp only [OutboxWorld.step]
      split
      · refine { outboxes := ?_, stored := h.stored, published := h.published }
        intro outbox hmem
        rcases List.mem_append.mp hmem with hold | hnew
        · exact h.outboxes outbox hold
        · rw [List.mem_singleton.mp hnew]
          exact Outbox.sound_create concurrency
      · exact h
  | enqueue index event innerEventId context => exact h.queue (fun _ _ houtbox => houtbox.enqueue)
  | publish index event innerEventId context => exact h.queue (fun _ _ houtbox => houtbox.publish)
  | retry index => exact h.within (fun _ houtbox => houtbox.retry)
  | close index => exact h.within (fun _ houtbox => houtbox.close)
  | timerFires index => exact h.within (fun _ houtbox => houtbox.timerFires)
  | settleList index failure => exact h.settleList
  | resumeList index => exact h.within (fun _ houtbox => houtbox.resumeList)
  | finishList index => exact h.within (fun _ houtbox => houtbox.finishList)
  | settlePut index task failure => exact h.settlePut
  | resumeEnqueue index task => exact h.within (fun _ houtbox => houtbox.resumeEnqueue)
  | settleAttempt index task failure reply => exact h.settleAttempt
  | resumeAttempt index task => exact h.resumeAttempt
  | resumePublish index task => exact h.within (fun _ houtbox => houtbox.resumePublish)
  | resumeRetry index => exact h.within (fun _ houtbox => houtbox.resumeRetry)
  | resumeWorker index worker => exact h.within (fun _ houtbox => houtbox.resumeWorker)

theorem sound_run (steps : List OutboxStep) : (run steps).Sound := by
  have hinitial : initial.Sound :=
    { outboxes := by
        intro outbox hmem
        cases hmem
      stored := by
        intro key row hrow
        cases hrow
      published := by
        intro event hmem
        cases hmem }
  unfold run
  generalize initial = world at hinitial
  induction steps generalizing world with
  | nil => exact hinitial
  | cons step rest ih => exact ih (world.step step) (hinitial.step step)

/-- A row leaves the storage only when the deletion of an attempt takes effect. -/
theorem step_removes {step : OutboxStep} {key : String}
    (hstored : (world.storage.get? key).isSome = true)
    (hgone : (world.step step).storage.get? key = none) :
    ∃ outbox ∈ world.outboxes, ∃ row, ⟨key, .deleting row none⟩ ∈ outbox.attemptTasks := by
  have hsame : ∀ {next : OutboxWorld}, next.storage = world.storage →
      next.storage.get? key = none → False := by
    intro next hstorage hnone
    rw [hstorage] at hnone
    rw [hnone] at hstored
    cases hstored
  have hwithin : ∀ index f, (world.within index f).storage = world.storage := by
    intro index f
    unfold OutboxWorld.within
    split
    · rfl
    · rfl
  have hqueue : ∀ index f, (world.queue index f).storage = world.storage := by
    intro index f
    unfold OutboxWorld.queue
    split
    · rfl
    · rfl
  cases step with
  | create concurrency =>
      dsimp only [OutboxWorld.step] at hgone
      split at hgone
      · exact (hsame rfl hgone).elim
      · exact (hsame rfl hgone).elim
  | enqueue index event innerEventId context => exact (hsame (hqueue _ _) hgone).elim
  | publish index event innerEventId context => exact (hsame (hqueue _ _) hgone).elim
  | settleList index failure =>
      dsimp only [OutboxWorld.step, OutboxWorld.settleList] at hgone
      split at hgone
      · exact (hsame rfl hgone).elim
      · split at hgone
        · exact (hsame rfl hgone).elim
        · exact (hsame rfl hgone).elim
  | settlePut index task failure =>
      dsimp only [OutboxWorld.step, OutboxWorld.settlePut] at hgone
      split at hgone
      · exact (hsame rfl hgone).elim
      · split at hgone
        · next other row hentry =>
            dsimp only at hgone
            split at hgone
            · rw [SortedMap.get?_insert] at hgone
              split at hgone
              · cases hgone
              · exact (hsame rfl hgone).elim
            · exact (hsame rfl hgone).elim
        · exact (hsame rfl hgone).elim
  | settleAttempt index task failure reply =>
      dsimp only [OutboxWorld.step, OutboxWorld.settleAttempt] at hgone
      split at hgone
      · exact (hsame rfl hgone).elim
      · next outbox hget =>
          split at hgone
          · exact (hsame rfl hgone).elim
          · exact (hsame rfl hgone).elim
          · exact (hsame rfl hgone).elim
          · next other row hentry =>
              dsimp only at hgone
              split at hgone
              · rw [SortedMap.get?_erase] at hgone
                split at hgone
                · next heq =>
                    subst heq
                    exact ⟨outbox, List.mem_of_getElem? hget, row, List.mem_of_getElem? hentry⟩
                · exact (hsame rfl hgone).elim
              · exact (hsame rfl hgone).elim
          · exact (hsame rfl hgone).elim
  | resumeAttempt index task =>
      dsimp only [OutboxWorld.step, OutboxWorld.resumeAttempt] at hgone
      split at hgone
      · exact (hsame rfl hgone).elim
      · exact (hsame rfl hgone).elim
  | _ => exact (hsame (hwithin _ _) hgone).elim

/-- Some `enqueue` of this event id has resolved, in any of the outboxes. -/
def Resolved (world : OutboxWorld) (key : String) : Prop :=
  ∃ outbox ∈ world.outboxes, ∃ task ∈ outbox.enqueueTasks,
    task.key = key ∧ task.point = .settled (.ok ())

/-- An event whose `enqueue` has resolved is stored, or a relay and `onPublished` have
acknowledged its row; a row is removed by nothing but the deletion that follows such an
acknowledgement. Every event handed to `publish` is one that was queued. In each outbox the
attempts past `acquire` are at most as many as `concurrency` allows, and no two of them share
a key. -/
theorem outbox_delivers_at_least_once (steps : List OutboxStep) :
    (∀ key, (run steps).Resolved key →
      ((run steps).storage.get? key).isSome = true ∨
        ∃ row ∈ (run steps).acked, row.event.id = key) ∧
    (∀ step key, ((run steps).storage.get? key).isSome = true →
      ((run steps).step step).storage.get? key = none →
        ∃ outbox ∈ (run steps).outboxes, ∃ row ∈ (run steps).acked,
          row.event.id = key ∧ ⟨key, .deleting row none⟩ ∈ outbox.attemptTasks) ∧
    (∀ event ∈ (run steps).published, ∃ row ∈ (run steps).enqueued, row.event = event) ∧
    (∀ outbox ∈ (run steps).outboxes,
      outbox.attemptTasks.countP (fun task => task.point.isPast) ≤ outbox.concurrency ∧
      ∀ (i j : Nat) (left right : AttemptTask), outbox.attemptTasks[i]? = some left →
        outbox.attemptTasks[j]? = some right → left.point.isPast = true →
          right.point.isPast = true → left.key = right.key → i = j) := by
  have hsound := sound_run steps
  generalize run steps = world at hsound
  refine ⟨?_, ?_, hsound.published, ?_⟩
  · rintro key ⟨outbox, houtbox, task, htask, rfl, hpoint⟩
    have hbacked := (hsound.outboxes outbox houtbox).enqueues task htask
    rw [hpoint] at hbacked
    exact hbacked
  · intro step key hstored hgone
    obtain ⟨outbox, houtbox, row, htask⟩ := step_removes hstored hgone
    obtain ⟨-, hacked⟩ := (hsound.outboxes outbox houtbox).attempts _ htask
    exact ⟨outbox, houtbox, row, hacked.1, hacked.2, htask⟩
  · intro outbox hmem
    have houtbox := hsound.outboxes outbox hmem
    refine ⟨?_, ?_⟩
    · have hpast : outbox.attemptTasks.countP (fun task => task.point.isPast) ≤
          outbox.attemptTasks.countP AttemptTask.holds :=
        List.countP_mono_left (fun task _ htask => holds_of_past htask)
      exact hpast.trans (houtbox.holders.trans houtbox.bounded)
    · intro i j left right hleft hright hleftPast hrightPast hkey
      have hi := houtbox.registered i left hleft
        (AttemptTask.not_settled_of_holds (holds_of_past hleftPast))
      have hj := houtbox.registered j right hright
        (AttemptTask.not_settled_of_holds (holds_of_past hrightPast))
      rw [hkey, hj] at hi
      exact (Option.some.inj hi).symm

end OutboxWorld

end NostrDoubleRatchet.TypeScript
