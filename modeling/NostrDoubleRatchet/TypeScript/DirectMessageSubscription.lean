import NostrDoubleRatchet.Lib.SortedSet

/-!
The direct-message subscriptions of `NdrRuntimeMessaging.ts`. A relay may replay its cached events
while `nostrSubscribe` is still running, and each event that is handled enters
`syncDirectMessageSubscription` again. The cleanup of a subscription is stored when
`nostrSubscribe` returns, so that until then the runtime does not hold what it has opened.
-/

namespace NostrDoubleRatchet.TypeScript

namespace Messaging

def THROTTLE_MS : Int := 1500

/-- The two subscription lists are those open at the relays. A cleanup is the number of the
subscription that it ends. -/
structure NdrRuntime (K : Type) where
  identityPublicKey : Option K
  messagePushAuthors : List K
  recipient : Option K
  recipientCleanup : Option Nat
  authors : List K
  cleanup : Option Nat
  lastChangeMs : Int
  throttleTimer : Bool
  recipientSubscriptions : List (Nat × K)
  authorSubscriptions : List (Nat × List K)
  subscribed : Nat

/-- What a relay replays into a subscription while it is opened: at each event the time, the
authors of the sessions once it is handled (none when it is not), and what is replayed into the
subscriptions that handling it opens. -/
inductive Replay (K : Type) where
  | done
  | event (now : Int) (handled : Option (List K)) (recipient authors rest : Replay K)

/-- A subscription that is open is closed through its cleanup. -/
def unsubscribe {α : Type} (cleanup : Option Nat) (subscriptions : List (Nat × α)) :
    List (Nat × α) :=
  subscriptions.filter (fun subscription => some subscription.1 ≠ cleanup)

namespace NdrRuntime

variable {K : Type} [LinearOrder K]

def new (K : Type) : NdrRuntime K where
  identityPublicKey := none
  messagePushAuthors := []
  recipient := none
  recipientCleanup := none
  authors := []
  cleanup := none
  lastChangeMs := 0
  throttleTimer := false
  recipientSubscriptions := []
  authorSubscriptions := []
  subscribed := 0

def openRecipient (x : NdrRuntime K) (recipient : K) : NdrRuntime K :=
  { x with
    recipientSubscriptions := x.recipientSubscriptions ++ [(x.subscribed, recipient)]
    subscribed := x.subscribed + 1 }

def openAuthors (x : NdrRuntime K) : NdrRuntime K :=
  { x with
    authorSubscriptions := x.authorSubscriptions ++ [(x.subscribed, x.authors)]
    subscribed := x.subscribed + 1 }

/-- The old subscription is closed and the next recipient is taken over. -/
def changeRecipient (x : NdrRuntime K) : NdrRuntime K :=
  { x with
    recipientSubscriptions := unsubscribe x.recipientCleanup x.recipientSubscriptions
    recipientCleanup := none
    recipient := x.identityPublicKey }

/-- The first part of `syncDirectMessageSubscription`; `replay` is what happens during
`nostrSubscribe`. -/
def syncRecipient (replay : NdrRuntime K → NdrRuntime K) (x : NdrRuntime K) : NdrRuntime K :=
  if x.identityPublicKey ≠ x.recipient then
    match x.identityPublicKey with
    | none => x.changeRecipient
    | some recipient =>
        { replay (x.changeRecipient.openRecipient recipient) with
          recipientCleanup := some x.subscribed }
  else x

def nextAuthors (x : NdrRuntime K) : List K := (SortedSet.ofList x.messagePushAuthors).toList

def addedAuthors (x : NdrRuntime K) : List K :=
  x.nextAuthors.filter (fun author => !x.authors.contains author)

/-- The old subscription is closed and the next authors are taken over. -/
def changeAuthors (now : Int) (x : NdrRuntime K) : NdrRuntime K :=
  { x with
    throttleTimer := false
    authorSubscriptions := unsubscribe x.cleanup x.authorSubscriptions
    cleanup := none
    authors := x.nextAuthors
    lastChangeMs := now }

/-- The second part of `syncDirectMessageSubscription`. -/
def syncAuthors (now : Int) (replay : NdrRuntime K → NdrRuntime K) (x : NdrRuntime K) : NdrRuntime K :=
  if x.nextAuthors = x.authors then x
  else if now - x.lastChangeMs < THROTTLE_MS ∧ x.addedAuthors.length = 0 then
    { x with throttleTimer := true }
  else if x.nextAuthors.length = 0 then x.changeAuthors now
  else
    { replay (x.changeAuthors now).openAuthors with cleanup := some x.subscribed }

def syncDirectMessageSubscription (now : Int)
    (replayRecipient replayAuthors : NdrRuntime K → NdrRuntime K) (x : NdrRuntime K) : NdrRuntime K :=
  syncAuthors now replayAuthors (syncRecipient replayRecipient x)

/-- `feedSessionManagerEvent`, for an event that is handled and leaves the sessions with these
authors, or is not handled. -/
def feedSessionManagerEvent (now : Int) (handled : Option (List K))
    (replayRecipient replayAuthors : NdrRuntime K → NdrRuntime K) (x : NdrRuntime K) : NdrRuntime K :=
  match handled with
  | none => x
  | some authors =>
      syncDirectMessageSubscription now replayRecipient replayAuthors
        { x with messagePushAuthors := authors }

/-- The events of a replay, one after the other. -/
def play : Replay K → NdrRuntime K → NdrRuntime K
  | .done, x => x
  | .event now handled recipient authors rest, x =>
      play rest (x.feedSessionManagerEvent now handled (play recipient) (play authors))

/-- The parts of `close` that concern these subscriptions. -/
def close (x : NdrRuntime K) : NdrRuntime K :=
  { x with
    authorSubscriptions := unsubscribe x.cleanup x.authorSubscriptions
    cleanup := none
    recipientSubscriptions := unsubscribe x.recipientCleanup x.recipientSubscriptions
    recipientCleanup := none
    recipient := none
    authors := []
    lastChangeMs := 0
    throttleTimer := false
    identityPublicKey := none
    messagePushAuthors := [] }

end NdrRuntime

/-- What happens to a runtime. A sync, an event and the timer come with what the relays replay. -/
inductive RuntimeAction (K : Type) where
  | initDelegate (identityPublicKey : Option K)
  | changeAuthors (messagePushAuthors : List K)
  | sync (now : Int) (recipient authors : Replay K)
  | receive (now : Int) (handled : Option (List K)) (recipient authors : Replay K)
  | timerFires (now : Int) (recipient authors : Replay K)
  | close

namespace NdrRuntime

variable {K : Type} [LinearOrder K]

def step (x : NdrRuntime K) : RuntimeAction K → NdrRuntime K
  | .initDelegate identityPublicKey => { x with identityPublicKey := identityPublicKey }
  | .changeAuthors messagePushAuthors => { x with messagePushAuthors := messagePushAuthors }
  | .sync now recipient authors =>
      x.syncDirectMessageSubscription now (play recipient) (play authors)
  | .receive now handled recipient authors =>
      x.feedSessionManagerEvent now handled (play recipient) (play authors)
  | .timerFires now recipient authors =>
      if x.throttleTimer then
        { x with throttleTimer := false }.syncDirectMessageSubscription now (play recipient)
          (play authors)
      else x
  | .close => x.close

def run (x : NdrRuntime K) (actions : List (RuntimeAction K)) : NdrRuntime K := actions.foldl step x

/-- The action ran a sync. -/
def Syncs (x : NdrRuntime K) : RuntimeAction K → Prop
  | .sync _ _ _ => True
  | .receive _ handled _ _ => handled.isSome = true
  | .timerFires _ _ _ => x.throttleTimer = true
  | _ => False

/-- The author subscription after an outermost sync. -/
structure Settled (x : NdrRuntime K) : Prop where
  subscription : x.authorSubscriptions.map Prod.snd =
    if x.authors.length = 0 then [] else [x.authors]
  contains : ∀ author ∈ x.messagePushAuthors, author ∈ x.authors
  timer : (∃ author ∈ x.authors, author ∉ x.messagePushAuthors) → x.throttleTimer = true

/-- Nothing is left open. -/
structure Released (x : NdrRuntime K) : Prop where
  authors : x.authorSubscriptions = []
  recipients : x.recipientSubscriptions = []
  timer : x.throttleTimer = false

/-! When a replay disturbs a subscription that is being opened. -/

/-- Every sync entered again while these authors are subscribed finds the same authors, or only
fewer of them within the throttle time. -/
def Calm (authors : List K) (openedMs : Int) : Replay K → Prop
  | .done => True
  | .event now handled _ _ rest =>
      (∀ next, handled = some next → (SortedSet.ofList next).toList = authors ∨
        now - openedMs < THROTTLE_MS ∧ ∀ author ∈ next, author ∈ authors) ∧
      Calm authors openedMs rest

/-- If the sync subscribes the next authors, the replay is calm. -/
def AuthorsUndisturbed (now : Int) (replay : Replay K) (x : NdrRuntime K) : Prop :=
  x.nextAuthors ≠ x.authors →
    ¬ (now - x.lastChangeMs < THROTTLE_MS ∧ x.addedAuthors.length = 0) →
    x.nextAuthors.length ≠ 0 → Calm x.nextAuthors now replay

/-- So it is in every sync that a replay into the recipient subscription enters. -/
def RecipientUndisturbed : Replay K → NdrRuntime K → Prop
  | .done, _ => True
  | .event now handled recipient authors rest, x =>
      (∀ next, handled = some next →
        AuthorsUndisturbed now authors { x with messagePushAuthors := next }) ∧
      RecipientUndisturbed rest
        (x.feedSessionManagerEvent now handled (play recipient) (play authors))

def SyncUndisturbed (now : Int) (recipient authors : Replay K) (x : NdrRuntime K) : Prop :=
  (∀ key, x.identityPublicKey ≠ x.recipient → x.identityPublicKey = some key →
    RecipientUndisturbed recipient (x.changeRecipient.openRecipient key)) ∧
  AuthorsUndisturbed now authors (x.syncRecipient (play recipient))

def Undisturbed (x : NdrRuntime K) : RuntimeAction K → Prop
  | .sync now recipient authors => SyncUndisturbed now recipient authors x
  | .receive now handled recipient authors => ∀ next, handled = some next →
      SyncUndisturbed now recipient authors { x with messagePushAuthors := next }
  | .timerFires now recipient authors => x.throttleTimer = true →
      SyncUndisturbed now recipient authors { x with throttleTimer := false }
  | _ => True

/-- A condition on every action of a run. -/
def Throughout (condition : NdrRuntime K → RuntimeAction K → Prop) (x : NdrRuntime K) :
    List (RuntimeAction K) → Prop
  | [] => True
  | action :: rest => condition x action ∧ Throughout condition (x.step action) rest

/-! The invariant. -/

/-- What is open is what is wanted, and the cleanup that is held ends it. -/
structure Held {α : Type} (wanted : Option α) (cleanup : Option Nat)
    (subscriptions : List (Nat × α)) : Prop where
  wanted : subscriptions.map Prod.snd = wanted.toList
  cleanup : subscriptions.map Prod.fst = cleanup.toList

theorem Held.unsubscribe {α : Type} {wanted : Option α} {cleanup : Option Nat}
    {subscriptions : List (Nat × α)} (h : Held wanted cleanup subscriptions) :
    unsubscribe cleanup subscriptions = [] := by
  unfold Messaging.unsubscribe
  rw [List.filter_eq_nil_iff]
  intro subscription hmem hopen
  have hid := List.mem_map_of_mem (f := Prod.fst) hmem
  rw [h.cleanup, Option.mem_toList] at hid
  exact of_decide_eq_true hopen hid.symm

/-- The authors that are to be subscribed, if there are any. -/
def wantedAuthors (x : NdrRuntime K) : Option (List K) :=
  if x.authors.length = 0 then none else some x.authors

structure Tracked (x : NdrRuntime K) : Prop where
  authors : Held x.wantedAuthors x.cleanup x.authorSubscriptions
  recipients : Held x.recipient x.recipientCleanup x.recipientSubscriptions

/-- The parts of a runtime that syncing the authors leaves alone. -/
structure SameRecipient (x y : NdrRuntime K) : Prop where
  identityPublicKey : y.identityPublicKey = x.identityPublicKey
  recipient : y.recipient = x.recipient
  recipientCleanup : y.recipientCleanup = x.recipientCleanup
  recipientSubscriptions : y.recipientSubscriptions = x.recipientSubscriptions

omit [LinearOrder K] in
theorem SameRecipient.refl (x : NdrRuntime K) : SameRecipient x x := ⟨rfl, rfl, rfl, rfl⟩

omit [LinearOrder K] in
theorem SameRecipient.trans {x y z : NdrRuntime K} (h : SameRecipient x y) (h' : SameRecipient y z) :
    SameRecipient x z where
  identityPublicKey := h'.identityPublicKey.trans h.identityPublicKey
  recipient := h'.recipient.trans h.recipient
  recipientCleanup := h'.recipientCleanup.trans h.recipientCleanup
  recipientSubscriptions := h'.recipientSubscriptions.trans h.recipientSubscriptions

/-- A runtime in the middle of the call that subscribes its authors. -/
structure Subscribing (x : NdrRuntime K) (openedMs : Int) : Prop where
  identityPublicKey : x.identityPublicKey = x.recipient
  lastChangeMs : x.lastChangeMs = openedMs
  contains : ∀ author ∈ x.messagePushAuthors, author ∈ x.authors
  timer : (∃ author ∈ x.authors, author ∉ x.messagePushAuthors) → x.throttleTimer = true

variable {x : NdrRuntime K} {now openedMs : Int}

theorem mem_nextAuthors {author : K} : author ∈ x.nextAuthors ↔ author ∈ x.messagePushAuthors := by
  unfold nextAuthors
  rw [SortedSet.mem_toList, SortedSet.mem_ofList]

theorem addedAuthors_length_eq_zero :
    x.addedAuthors.length = 0 ↔ ∀ author ∈ x.messagePushAuthors, author ∈ x.authors := by
  unfold addedAuthors
  rw [List.length_eq_zero_iff, List.filter_eq_nil_iff]
  constructor
  · intro hnone author hmem
    have hadded := hnone author (mem_nextAuthors.mpr hmem)
    simpa using hadded
  · intro hall author hmem
    simpa using hall author (mem_nextAuthors.mp hmem)

theorem syncRecipient_of_eq (h : x.identityPublicKey = x.recipient)
    (replay : NdrRuntime K → NdrRuntime K) : x.syncRecipient replay = x := by
  unfold syncRecipient
  rw [if_neg (not_not.mpr h)]

/-- The event of a calm replay. -/
theorem Subscribing.receive (h : Subscribing x openedMs) {next : List K}
    (hcalm : (SortedSet.ofList next).toList = x.authors ∨
      now - openedMs < THROTTLE_MS ∧ ∀ author ∈ next, author ∈ x.authors)
    (recipient authors : NdrRuntime K → NdrRuntime K) :
    ∃ throttleTimer,
      x.feedSessionManagerEvent now (some next) recipient authors =
        { x with messagePushAuthors := next, throttleTimer := throttleTimer } ∧
      Subscribing { x with messagePushAuthors := next, throttleTimer := throttleTimer }
        openedMs := by
  change ∃ throttleTimer, syncAuthors now authors (syncRecipient recipient
    { x with messagePushAuthors := next }) = _ ∧ _
  rw [syncRecipient_of_eq (x := { x with messagePushAuthors := next }) h.identityPublicKey]
  unfold syncAuthors
  by_cases hsame : (SortedSet.ofList next).toList = x.authors
  · have hmem : ∀ author, author ∈ next ↔ author ∈ x.authors := by
      intro author
      rw [← hsame, SortedSet.mem_toList, SortedSet.mem_ofList]
    refine ⟨x.throttleTimer, if_pos hsame, h.identityPublicKey, h.lastChangeMs,
      fun author => (hmem author).mp, ?_⟩
    rintro ⟨author, hauthor, hmissing⟩
    exact absurd ((hmem author).mpr hauthor) hmissing
  · obtain hsame' | ⟨htime, hcontains⟩ := hcalm
    · exact absurd hsame' hsame
    · refine ⟨true, ?_, h.identityPublicKey, h.lastChangeMs, hcontains, fun _ => rfl⟩
      have hsame' : ¬ ({ x with messagePushAuthors := next } : NdrRuntime K).nextAuthors = x.authors :=
        hsame
      rw [if_neg hsame', if_pos]
      refine ⟨?_, addedAuthors_length_eq_zero.mpr hcontains⟩
      dsimp only
      rw [h.lastChangeMs]
      exact htime

/-- A calm replay changes neither the authors nor what is open. -/
theorem Subscribing.play (h : Subscribing x openedMs) {replay : Replay K}
    (hcalm : Calm x.authors openedMs replay) :
    Subscribing (play replay x) openedMs ∧ (play replay x).authors = x.authors ∧
      (play replay x).authorSubscriptions = x.authorSubscriptions ∧
      SameRecipient x (play replay x) := by
  induction replay generalizing x with
  | done => exact ⟨h, rfl, rfl, SameRecipient.refl x⟩
  | event now handled recipient authors rest _ _ ih =>
      obtain ⟨hfirst, hrest⟩ := hcalm
      rw [NdrRuntime.play]
      cases handled with
      | none => exact ih h hrest
      | some next =>
          obtain ⟨throttleTimer, hfeed, hnext⟩ := h.receive (hfirst next rfl)
            (NdrRuntime.play recipient) (NdrRuntime.play authors)
          rw [hfeed]
          obtain ⟨hplayed, hauthors, hsubscriptions, hsame⟩ := ih hnext hrest
          exact ⟨hplayed, hauthors, hsubscriptions, hsame.identityPublicKey, hsame.recipient,
            hsame.recipientCleanup, hsame.recipientSubscriptions⟩

/-- A sync of the authors leaves one subscription of the authors that are wanted. -/
theorem syncAuthors_settles (hidentity : x.identityPublicKey = x.recipient)
    (htracked : Held x.wantedAuthors x.cleanup x.authorSubscriptions) {replay : Replay K}
    (hundisturbed : AuthorsUndisturbed now replay x) :
    Held (x.syncAuthors now (play replay)).wantedAuthors (x.syncAuthors now (play replay)).cleanup
        (x.syncAuthors now (play replay)).authorSubscriptions ∧
      Subscribing (x.syncAuthors now (play replay))
        (x.syncAuthors now (play replay)).lastChangeMs ∧
      SameRecipient x (x.syncAuthors now (play replay)) := by
  unfold syncAuthors
  by_cases hsame : x.nextAuthors = x.authors
  · rw [if_pos hsame]
    refine ⟨htracked, ⟨hidentity, rfl, ?_, ?_⟩, SameRecipient.refl x⟩
    · intro author hmem
      rw [← hsame]
      exact mem_nextAuthors.mpr hmem
    · rintro ⟨author, hmem, hmissing⟩
      rw [← hsame] at hmem
      exact absurd (mem_nextAuthors.mp hmem) hmissing
  · rw [if_neg hsame]
    by_cases hthrottled : now - x.lastChangeMs < THROTTLE_MS ∧ x.addedAuthors.length = 0
    · rw [if_pos hthrottled]
      exact ⟨htracked, ⟨hidentity, rfl, addedAuthors_length_eq_zero.mp hthrottled.2, fun _ => rfl⟩,
        ⟨rfl, rfl, rfl, rfl⟩⟩
    · rw [if_neg hthrottled]
      have hclosed : (x.changeAuthors now).authorSubscriptions = [] := htracked.unsubscribe
      have hstart : Subscribing (x.changeAuthors now) now := by
        refine ⟨hidentity, rfl, fun author => mem_nextAuthors.mpr, ?_⟩
        rintro ⟨author, hmem, hmissing⟩
        exact absurd (mem_nextAuthors.mp hmem) hmissing
      by_cases hnone : x.nextAuthors.length = 0
      · rw [if_pos hnone]
        refine ⟨⟨?_, ?_⟩, hstart, ⟨rfl, rfl, rfl, rfl⟩⟩
        · rw [hclosed]
          unfold wantedAuthors
          rw [if_pos (show (x.changeAuthors now).authors.length = 0 from hnone)]
          rfl
        · rw [hclosed]
          rfl
      · rw [if_neg hnone]
        have hopening : Subscribing (x.changeAuthors now).openAuthors now :=
          ⟨hstart.identityPublicKey, hstart.lastChangeMs, hstart.contains, hstart.timer⟩
        obtain ⟨hplayed, hauthors, hsubscriptions, hrecipient⟩ :=
          hopening.play (hundisturbed hsame hthrottled hnone)
        have hopen : (x.changeAuthors now).openAuthors.authorSubscriptions =
            [(x.subscribed, x.nextAuthors)] := by
          change (x.changeAuthors now).authorSubscriptions ++ _ = _
          rw [hclosed]
          rfl
        rw [hopen] at hsubscriptions
        refine ⟨⟨?_, ?_⟩, ⟨hplayed.identityPublicKey, rfl, hplayed.contains, hplayed.timer⟩, ?_⟩
        · dsimp only
          rw [hsubscriptions]
          unfold wantedAuthors
          dsimp only
          rw [hauthors, if_neg (show (x.changeAuthors now).openAuthors.authors.length ≠ 0 from hnone)]
          rfl
        · dsimp only
          rw [hsubscriptions]
          rfl
        · exact ⟨hrecipient.identityPublicKey, hrecipient.recipient, hrecipient.recipientCleanup,
            hrecipient.recipientSubscriptions⟩

/-- A replay into the recipient subscription moves the author subscription as whole syncs do. -/
theorem play_tracked {replay : Replay K} (hidentity : x.identityPublicKey = x.recipient)
    (htracked : Held x.wantedAuthors x.cleanup x.authorSubscriptions)
    (hundisturbed : RecipientUndisturbed replay x) :
    Held (play replay x).wantedAuthors (play replay x).cleanup
        (play replay x).authorSubscriptions ∧
      SameRecipient x (play replay x) := by
  induction replay generalizing x with
  | done => exact ⟨htracked, SameRecipient.refl x⟩
  | event now handled recipient authors rest _ _ ih =>
      obtain ⟨hfirst, hrest⟩ := hundisturbed
      rw [play]
      cases handled with
      | none => exact ih hidentity htracked hrest
      | some next =>
          have hfeed : x.feedSessionManagerEvent now (some next) (play recipient) (play authors) =
              syncAuthors now (play authors) { x with messagePushAuthors := next } := by
            change syncAuthors now _ (syncRecipient _ { x with messagePushAuthors := next }) = _
            rw [syncRecipient_of_eq (x := { x with messagePushAuthors := next }) hidentity]
          rw [hfeed] at hrest ⊢
          obtain ⟨hheld, -, hsame⟩ := syncAuthors_settles
            (x := { x with messagePushAuthors := next }) hidentity htracked (hfirst next rfl)
          obtain ⟨hheld', hsame'⟩ := ih
            (by rw [hsame.identityPublicKey, hsame.recipient]; exact hidentity) hheld hrest
          have hbefore : SameRecipient x { x with messagePushAuthors := next } :=
            ⟨rfl, rfl, rfl, rfl⟩
          exact ⟨hheld', (hbefore.trans hsame).trans hsame'⟩

theorem syncRecipient_tracked (htracked : Tracked x) {replay : Replay K}
    (hundisturbed : ∀ key, x.identityPublicKey ≠ x.recipient → x.identityPublicKey = some key →
      RecipientUndisturbed replay (x.changeRecipient.openRecipient key)) :
    Tracked (x.syncRecipient (play replay)) ∧
      (x.syncRecipient (play replay)).identityPublicKey =
        (x.syncRecipient (play replay)).recipient := by
  by_cases hsame : x.identityPublicKey = x.recipient
  · rw [syncRecipient_of_eq hsame]
    exact ⟨htracked, hsame⟩
  · have hclosed : x.changeRecipient.recipientSubscriptions = [] :=
      htracked.recipients.unsubscribe
    unfold syncRecipient
    rw [if_pos hsame]
    cases hidentity : x.identityPublicKey with
    | none =>
        refine ⟨⟨htracked.authors, ⟨?_, ?_⟩⟩, rfl⟩
        · dsimp only
          rw [hclosed]
          exact (congrArg Option.toList hidentity).symm
        · dsimp only
          rw [hclosed]
          rfl
    | some key =>
        dsimp only
        have hopen : (x.changeRecipient.openRecipient key).recipientSubscriptions =
            [(x.subscribed, key)] := by
          change x.changeRecipient.recipientSubscriptions ++ _ = _
          rw [hclosed]
          rfl
        obtain ⟨hheld, hplayed⟩ := play_tracked
          (x := x.changeRecipient.openRecipient key) rfl htracked.authors
          (hundisturbed key hsame hidentity)
        refine ⟨⟨hheld, ⟨?_, ?_⟩⟩, ?_⟩
        · dsimp only
          rw [hplayed.recipientSubscriptions, hplayed.recipient, hopen]
          exact (congrArg Option.toList hidentity).symm
        · dsimp only
          rw [hplayed.recipientSubscriptions, hopen]
          rfl
        · exact hplayed.identityPublicKey.trans hplayed.recipient.symm

/-- A sync that nothing disturbs settles the runtime. -/
theorem sync_settles (htracked : Tracked x) {recipient authors : Replay K}
    (hundisturbed : SyncUndisturbed now recipient authors x) :
    Tracked (x.syncDirectMessageSubscription now (play recipient) (play authors)) ∧
      Settled (x.syncDirectMessageSubscription now (play recipient) (play authors)) := by
  obtain ⟨hrecipient, hauthors⟩ := hundisturbed
  obtain ⟨hfirst, hidentity⟩ := syncRecipient_tracked htracked hrecipient
  obtain ⟨hheld, hsubscribing, hsame⟩ := syncAuthors_settles hidentity hfirst.authors hauthors
  unfold syncDirectMessageSubscription
  refine ⟨⟨hheld, ?_⟩, ⟨?_, hsubscribing.contains, hsubscribing.timer⟩⟩
  · rw [hsame.recipient, hsame.recipientCleanup, hsame.recipientSubscriptions]
    exact hfirst.recipients
  · rw [hheld.wanted]
    unfold wantedAuthors
    split
    · rfl
    · rfl

theorem Tracked.step (htracked : Tracked x) {action : RuntimeAction K}
    (hundisturbed : Undisturbed x action) :
    Tracked (x.step action) ∧ (x.Syncs action → Settled (x.step action)) ∧
      (action = .close → Released (x.step action)) := by
  cases action with
  | initDelegate identityPublicKey =>
      exact ⟨⟨htracked.authors, htracked.recipients⟩, fun h => h.elim, fun h => by cases h⟩
  | changeAuthors messagePushAuthors =>
      exact ⟨⟨htracked.authors, htracked.recipients⟩, fun h => h.elim, fun h => by cases h⟩
  | sync now recipient authors =>
      obtain ⟨hnext, hsettled⟩ := sync_settles htracked hundisturbed
      exact ⟨hnext, fun _ => hsettled, fun h => by cases h⟩
  | receive now handled recipient authors =>
      cases handled with
      | none => exact ⟨htracked, (fun h => by cases h), fun h => by cases h⟩
      | some next =>
          obtain ⟨hnext, hsettled⟩ := sync_settles
            (x := { x with messagePushAuthors := next })
            ⟨htracked.authors, htracked.recipients⟩ (hundisturbed next rfl)
          exact ⟨hnext, fun _ => hsettled, fun h => by cases h⟩
  | timerFires now recipient authors =>
      unfold NdrRuntime.step
      dsimp only
      by_cases htimer : x.throttleTimer = true
      · rw [if_pos htimer]
        obtain ⟨hnext, hsettled⟩ := sync_settles (x := { x with throttleTimer := false })
          ⟨htracked.authors, htracked.recipients⟩ (hundisturbed htimer)
        exact ⟨hnext, fun _ => hsettled, fun h => by cases h⟩
      · rw [if_neg htimer]
        exact ⟨htracked, fun h => absurd h htimer, fun h => by cases h⟩
  | close =>
      have hauthors : x.close.authorSubscriptions = [] := htracked.authors.unsubscribe
      have hrecipients : x.close.recipientSubscriptions = [] := htracked.recipients.unsubscribe
      refine ⟨⟨⟨?_, ?_⟩, ⟨?_, ?_⟩⟩, fun h => h.elim, fun _ => ⟨hauthors, hrecipients, rfl⟩⟩
      · exact congrArg (List.map Prod.snd) hauthors
      · exact congrArg (List.map Prod.fst) hauthors
      · exact congrArg (List.map Prod.snd) hrecipients
      · exact congrArg (List.map Prod.fst) hrecipients

theorem Tracked.run (htracked : Tracked x) {actions : List (RuntimeAction K)}
    (hundisturbed : Throughout Undisturbed x actions) : Tracked (x.run actions) := by
  induction actions generalizing x with
  | nil => exact htracked
  | cons action rest ih => exact ih (htracked.step hundisturbed.1).1 hundisturbed.2

theorem throughout_append {condition : NdrRuntime K → RuntimeAction K → Prop}
    {before : List (RuntimeAction K)} {action : RuntimeAction K}
    (h : Throughout condition x (before ++ [action])) :
    Throughout condition x before ∧ condition (x.run before) action := by
  induction before generalizing x with
  | nil => exact ⟨trivial, h.1⟩
  | cons first rest ih =>
      obtain ⟨hrest, hlast⟩ := ih h.2
      exact ⟨⟨h.1, hrest⟩, hlast⟩

/-- While no replay disturbs a subscription that is being opened, every outermost sync leaves one
subscription of the authors, which hold all those of the sessions, with the timer set when they
hold more; and a close leaves nothing. -/
theorem direct_messages_subscribed (before : List (RuntimeAction K)) (action : RuntimeAction K)
    (hundisturbed : Throughout Undisturbed (new K) (before ++ [action])) :
    (((new K).run before).Syncs action → Settled ((new K).run (before ++ [action]))) ∧
      (action = .close → Released ((new K).run (before ++ [action]))) := by
  obtain ⟨hbefore, hlast⟩ := throughout_append hundisturbed
  have hnew : Tracked (new K) := ⟨⟨rfl, rfl⟩, ⟨rfl, rfl⟩⟩
  have htracked := hnew.run hbefore
  have hrun : (new K).run (before ++ [action]) = ((new K).run before).step action :=
    List.foldl_append
  rw [hrun]
  exact (htracked.step hlast).2

end NdrRuntime

/-! A relay that replays one cached event. -/

namespace CachedEvent

open NdrRuntime

/-- The first subscription is to two authors, and a cached event leaves the sessions with these. -/
def subscribe (authors : List Nat) : List (RuntimeAction Nat) :=
  [.changeAuthors [1, 2],
    .sync 10000 .done (.event 10500 (some authors) .done .done .done)]

/-- A cached event that adds an author leaves two subscriptions open, one of them for good. -/
theorem added_author_leaks :
    ¬ Settled ((NdrRuntime.new Nat).run (subscribe [1, 3])) ∧
      ¬ Released ((NdrRuntime.new Nat).run (subscribe [1, 3] ++ [.close])) := by
  constructor
  · intro hsettled
    have hsubscription := hsettled.subscription
    revert hsubscription
    decide
  · intro hreleased
    have hauthors := hreleased.authors
    revert hauthors
    decide

/-- A cached event that removes an author sets the timer. -/
theorem removed_author_waits :
    Settled ((NdrRuntime.new Nat).run (subscribe [1])) ∧
      Released ((NdrRuntime.new Nat).run (subscribe [1] ++ [.close])) := by
  have hsync : SyncUndisturbed 10000 .done (.event 10500 (some [1]) .done .done .done)
      ((NdrRuntime.new Nat).step (.changeAuthors [1, 2])) := by
    refine ⟨fun key hne => absurd rfl hne, fun _ _ _ => ⟨?_, trivial⟩⟩
    intro next hnext
    cases hnext
    exact .inr (by decide)
  exact ⟨(direct_messages_subscribed [.changeAuthors [1, 2]]
      (.sync 10000 .done (.event 10500 (some [1]) .done .done .done))
      ⟨trivial, hsync, trivial⟩).1 trivial,
    (direct_messages_subscribed (subscribe [1]) .close ⟨trivial, hsync, trivial, trivial⟩).2 rfl⟩

end CachedEvent

end Messaging

end NostrDoubleRatchet.TypeScript
