import NostrDoubleRatchet.Lib.SortedMap
import NostrDoubleRatchet.TypeScript.Events

/-!
The durable relay outbox of `PersistentNostrOutbox.ts`. An outbox is a set of asynchronous
tasks that share a few maps. Each task is recorded by the `await` it stands at, with what the
awaited promise has settled to, and a step of the run either settles a promise or resumes one
task up to its next `await`. Several outboxes, closed or open, may share one storage.
-/

namespace NostrDoubleRatchet.TypeScript

/-- Group rosters and shared group ciphertext never go to a relay. -/
def isForbiddenGroupRelayEvent (event : VerifiedEvent) : Bool :=
  if [10445, 10446, 10447, 21113].contains event.kind then true
  else if event.kind = 37368 ∧
      event.tags.any (fun tag => tag.head? = some "type" && tag[1]? = some "group_roster") then true
  else if event.kind ≠ 1060 ∧ event.kind ≠ 1059 then false
  else
    match event.tags.filter (fun tag => tag.head? = some "p") with
    | [tag] => !isHex64 (tag[1]?.getD "")
    | _ => true

def requiresPrivacyUpgrade (event : VerifiedEvent) : Bool :=
  isForbiddenGroupRelayEvent event ||
    ((event.kind = 1059 || event.kind = 1060) && !hasMetadataPrivacyVersion event)

structure NostrPublishContext where
  groupId : Option String
  recipientOwnerPubkey : Option String
  createdAt : Option Nat
  deriving DecidableEq

structure PersistentNostrPublication where
  event : VerifiedEvent
  innerEventId : Option String
  context : Option NostrPublishContext
  deriving DecidableEq

def closedError : String := "Nostr outbox is closed"

/-- How a promise that has settled did so. -/
abbrev Outcome (α : Type) := Except String α

/-- Where an `enqueue` task stands. A `none` is a promise that is still pending. -/
inductive EnqueuePoint where
  | loading
  | loaded (result : Outcome Unit)
  | putting (result : Option (Outcome Unit))
  | finished (result : Outcome Unit)
  | settled (result : Outcome Unit)

structure EnqueueTask where
  key : String
  row : PersistentNostrPublication
  point : EnqueuePoint

/-- Where an `attempt` task stands. From `acquired` to `deleting` it is past `acquire` and
holds one of the outbox's slots; `granted` holds a slot that `acquire` has not returned. -/
inductive AttemptPoint where
  | waiting
  | granted
  | refused (error : String)
  | acquired
  | enqueuing (task : Option Nat)
  | getting (result : Option (Outcome (Option PersistentNostrPublication)))
  | publishing (row : PersistentNostrPublication) (result : Option (Outcome (String × String)))
  | acknowledging (row : PersistentNostrPublication) (result : Option (Outcome Unit))
  | deleting (row : PersistentNostrPublication) (result : Option (Outcome Unit))
  | finished (result : Outcome VerifiedEvent)
  | settled (result : Outcome VerifiedEvent)

structure AttemptTask where
  key : String
  point : AttemptPoint

inductive PublishPoint where
  | enqueuing (task : Nat)
  | attempting (task : Nat)
  | failed (error : String)

structure PublishTask where
  key : String
  point : PublishPoint

/-- The shared `load` of an outbox: its `list` call, then its `finally`. -/
inductive LoadPoint where
  | listing (result : Option (Outcome (List String)))
  | finished (result : Outcome Unit)

inductive WorkerPoint where
  | ready
  | attempting (task : Nat)
  | stopped

inductive RetryPoint where
  | loading
  | loaded (result : Outcome Unit)
  | working (remaining : List String) (index : Nat) (workers : List WorkerPoint)

structure Outbox where
  concurrency : Nat
  keys : List String
  blocked : List String
  enqueuing : SortedMap String Nat
  attempts : SortedMap String Nat
  waiting : List Nat
  active : Nat
  closed : Bool
  loaded : Bool
  loading : Option LoadPoint
  retrying : Option RetryPoint
  timer : Bool
  enqueueTasks : List EnqueueTask
  attemptTasks : List AttemptTask
  publishTasks : List PublishTask

namespace Outbox

/-- `createPersistentNostrOutbox`, once its options have been checked. -/
def create (concurrency : Nat) : Outbox :=
  { concurrency
    keys := []
    blocked := []
    enqueuing := SortedMap.empty
    attempts := SortedMap.empty
    waiting := []
    active := 0
    closed := false
    loaded := false
    loading := none
    retrying := none
    timer := false
    enqueueTasks := []
    attemptTasks := []
    publishTasks := [] }

def addKey (outbox : Outbox) (key : String) : Outbox :=
  { outbox with keys := if outbox.keys.contains key then outbox.keys else outbox.keys ++ [key] }

def deleteKey (outbox : Outbox) (key : String) : Outbox :=
  { outbox with keys := outbox.keys.filter (· ≠ key) }

def schedule (outbox : Outbox) : Outbox :=
  { outbox with timer := !(outbox.closed || outbox.keys.isEmpty) }

def setEnqueue (outbox : Outbox) (task : Nat) (point : EnqueuePoint) : Outbox :=
  { outbox with
    enqueueTasks := outbox.enqueueTasks.modify task (fun entry => { entry with point := point }) }

def setAttempt (outbox : Outbox) (task : Nat) (point : AttemptPoint) : Outbox :=
  { outbox with
    attemptTasks := outbox.attemptTasks.modify task (fun entry => { entry with point := point }) }

/-- `load` up to its `await`: what it has settled to, or `none` while its list is pending. -/
def load (outbox : Outbox) : Outbox × Option (Outcome Unit) :=
  if outbox.closed then (outbox, some (.error closedError))
  else if outbox.loaded then (outbox, some (.ok ()))
  else if outbox.loading.isSome then (outbox, none)
  else ({ outbox with loading := some (.listing none) }, none)

/-- The callback of `list`. -/
def resumeList (outbox : Outbox) : Outbox :=
  match outbox.loading with
  | some (.listing (some (.error error))) =>
      { outbox with loading := some (.finished (.error error)) }
  | some (.listing (some (.ok stored))) =>
      if outbox.closed then { outbox with loading := some (.finished (.error closedError)) }
      else
        { stored.foldl addKey outbox with
          loaded := true, loading := some (.finished (.ok ())) }
  | _ => outbox

def EnqueueTask.wake (result : Outcome Unit) (task : EnqueueTask) : EnqueueTask :=
  match task.point with
  | .loading => { task with point := .loaded result }
  | _ => task

def RetryPoint.wake (result : Outcome Unit) : RetryPoint → RetryPoint
  | .loading => .loaded result
  | point => point

/-- The `finally` of `loading`: it wakes every task that awaited this load. -/
def finishList (outbox : Outbox) : Outbox :=
  match outbox.loading with
  | some (.finished result) =>
      { outbox with
        loading := none
        enqueueTasks := outbox.enqueueTasks.map (EnqueueTask.wake result)
        retrying := outbox.retrying.map (RetryPoint.wake result) }
  | _ => outbox

/-- `enqueue`. The rows are the ones it has cloned, and the task is the one whose promise
the call returns. -/
def enqueue (outbox : Outbox) (event : VerifiedEvent) (innerEventId : Option String)
    (context : Option NostrPublishContext) :
    Outbox × List PersistentNostrPublication × Outcome Nat :=
  if outbox.closed then (outbox, [], .error closedError)
  else if event.id = "" ∨ event.sig = "" then
    (outbox, [], .error "Cannot queue an unsigned event")
  else if requiresPrivacyUpgrade event then
    (outbox, [], .error "Publication requires a new private handshake")
  else
    match outbox.enqueuing.get? event.id with
    | some task => (outbox, [], .ok task)
    | none =>
        let row : PersistentNostrPublication := { event, innerEventId, context }
        let (loading, result) := outbox.load
        let point := match result with
          | none => EnqueuePoint.loading
          | some result => .loaded result
        let task := loading.enqueueTasks.length
        ({ loading with
            enqueueTasks := loading.enqueueTasks ++ [⟨event.id, row, point⟩]
            enqueuing := loading.enqueuing.insert event.id task },
          [row], .ok task)

/-- One resumption of an `enqueue` task. -/
def resumeEnqueue (outbox : Outbox) (task : Nat) : Outbox :=
  match outbox.enqueueTasks[task]? with
  | none => outbox
  | some entry =>
      match entry.point with
      | .loaded (.error error) => outbox.setEnqueue task (.finished (.error error))
      | .loaded (.ok ()) =>
          if outbox.closed then outbox.setEnqueue task (.finished (.error closedError))
          else if outbox.keys.contains entry.key then
            outbox.schedule.setEnqueue task (.finished (.ok ()))
          else outbox.setEnqueue task (.putting none)
      | .putting (some (.error error)) => outbox.setEnqueue task (.finished (.error error))
      | .putting (some (.ok ())) =>
          if outbox.closed then outbox.setEnqueue task (.finished (.error closedError))
          else (outbox.addKey entry.key).schedule.setEnqueue task (.finished (.ok ()))
      | .finished result =>
          { outbox.setEnqueue task (.settled result) with
            enqueuing := outbox.enqueuing.erase entry.key }
      | _ => outbox

/-- `release`: the slot goes to the first waiter, or back. -/
def release (outbox : Outbox) : Outbox :=
  match outbox.waiting with
  | [] => { outbox with active := outbox.active - 1 }
  | next :: rest =>
      if outbox.closed then { outbox with waiting := rest, active := outbox.active - 1 }
      else ({ outbox with waiting := rest }).setAttempt next .granted

/-- The `catch` and `finally` of `attempt`, and its end. -/
def leave (outbox : Outbox) (task : Nat) (result : Outcome VerifiedEvent) : Outbox :=
  (outbox.setAttempt task (.finished result)).release.schedule

/-- `attempt` up to its first `await`: `acquire` gives a slot, or a place in the queue. -/
def attempt (outbox : Outbox) (key : String) : Outbox × Nat :=
  match outbox.attempts.get? key with
  | some task => (outbox, task)
  | none =>
      let task := outbox.attemptTasks.length
      let registered := { outbox with attempts := outbox.attempts.insert key task }
      let push (point : AttemptPoint) (outbox : Outbox) : Outbox :=
        { outbox with attemptTasks := outbox.attemptTasks ++ [⟨key, point⟩] }
      if outbox.closed then (push (.refused closedError) registered, task)
      else if outbox.active < outbox.concurrency then
        (push .acquired { registered with active := outbox.active + 1 }, task)
      else (push .waiting { registered with waiting := outbox.waiting ++ [task] }, task)

/-- What `await enqueuing.get(key)` gives, once it has settled. -/
def enqueued (outbox : Outbox) : Option Nat → Option (Outcome Unit)
  | none => some (.ok ())
  | some task =>
      match outbox.enqueueTasks[task]?.map EnqueueTask.point with
      | some (.settled result) => some result
      | _ => none

/-- One resumption of an `attempt` task, and the events it hands to `publish`. -/
def resumeAttempt (outbox : Outbox) (task : Nat) : Outbox × List VerifiedEvent :=
  match outbox.attemptTasks[task]? with
  | none => (outbox, [])
  | some entry =>
      match entry.point with
      | .granted =>
          if outbox.closed then (outbox.setAttempt task (.refused closedError), [])
          else (outbox.setAttempt task .acquired, [])
      | .refused error => (outbox.setAttempt task (.finished (.error error)), [])
      | .acquired =>
          if outbox.closed then (outbox.leave task (.error closedError), [])
          else (outbox.setAttempt task (.enqueuing (outbox.enqueuing.get? entry.key)), [])
      | .enqueuing awaited =>
          match outbox.enqueued awaited with
          | none => (outbox, [])
          | some (.error error) => (outbox.leave task (.error error), [])
          | some (.ok ()) => (outbox.setAttempt task (.getting none), [])
      | .getting (some (.error error)) => (outbox.leave task (.error error), [])
      | .getting (some (.ok found)) =>
          if outbox.closed then (outbox.leave task (.error closedError), [])
          else
            match found with
            | none =>
                ((outbox.deleteKey entry.key).leave task (.error "Outbox envelope is missing"), [])
            | some row =>
                if requiresPrivacyUpgrade row.event then
                  -- the ciphertext is kept for the host, out of the retry loop
                  (({ outbox with blocked := entry.key :: outbox.blocked }.deleteKey
                    entry.key).leave task
                      (.error "Publication requires a new private handshake"), [])
                else (outbox.setAttempt task (.publishing row none), [row.event])
      | .publishing _ (some (.error error)) => (outbox.leave task (.error error), [])
      | .publishing row (some (.ok (id, sig))) =>
          if outbox.closed then (outbox.leave task (.error closedError), [])
          else if id ≠ row.event.id ∨ sig ≠ row.event.sig then
            (outbox.leave task (.error "Relay acknowledged a different envelope"), [])
          else (outbox.setAttempt task (.acknowledging row none), [])
      | .acknowledging _ (some (.error error)) => (outbox.leave task (.error error), [])
      | .acknowledging row (some (.ok ())) =>
          if outbox.closed then (outbox.leave task (.error closedError), [])
          else (outbox.setAttempt task (.deleting row none), [])
      | .deleting _ (some (.error error)) => (outbox.leave task (.error error), [])
      | .deleting row (some (.ok ())) =>
          if outbox.closed then (outbox.leave task (.error closedError), [])
          else ((outbox.deleteKey entry.key).leave task (.ok row.event), [])
      | .finished result =>
          ({ outbox.setAttempt task (.settled result) with
              attempts := outbox.attempts.erase entry.key }, [])
      | _ => (outbox, [])

/-- `publish` up to its `await enqueue`. -/
def publish (outbox : Outbox) (event : VerifiedEvent) (innerEventId : Option String)
    (context : Option NostrPublishContext) : Outbox × List PersistentNostrPublication :=
  let (outbox, rows, task) := outbox.enqueue event innerEventId context
  let point := match task with
    | .ok task => PublishPoint.enqueuing task
    | .error error => .failed error
  ({ outbox with publishTasks := outbox.publishTasks ++ [⟨event.id, point⟩] }, rows)

def setPublish (outbox : Outbox) (task : Nat) (point : PublishPoint) : Outbox :=
  { outbox with
    publishTasks := outbox.publishTasks.modify task (fun entry => { entry with point := point }) }

def resumePublish (outbox : Outbox) (task : Nat) : Outbox :=
  match outbox.publishTasks[task]? with
  | none => outbox
  | some entry =>
      match entry.point with
      | .enqueuing awaited =>
          match outbox.enqueued (some awaited) with
          | none => outbox
          | some (.error error) => outbox.setPublish task (.failed error)
          | some (.ok ()) =>
              if outbox.closed then outbox.setPublish task (.failed closedError)
              else
                let (outbox, attempt) := outbox.attempt entry.key
                outbox.setPublish task (.attempting attempt)
      | _ => outbox

/-- `retry` up to its `await load`. A retry that runs already is shared. -/
def retry (outbox : Outbox) : Outbox :=
  if outbox.closed ∨ outbox.retrying.isSome then outbox
  else
    let (outbox, result) := outbox.load
    let point := match result with
      | none => RetryPoint.loading
      | some result => .loaded result
    { outbox with retrying := some point }

def WorkerPoint.isStopped : WorkerPoint → Bool
  | .stopped => true
  | _ => false

/-- The body of `retry` after `load`, and its `finally` once every worker has stopped. -/
def resumeRetry (outbox : Outbox) : Outbox :=
  match outbox.retrying with
  | some (.loaded (.error _)) => { outbox with retrying := none }.schedule
  | some (.loaded (.ok ())) =>
      let remaining := outbox.keys.filter (fun key => !outbox.blocked.contains key)
      let workers := List.replicate (min outbox.concurrency remaining.length) WorkerPoint.ready
      { outbox with retrying := some (.working remaining 0 workers) }
  | some (.working _ _ workers) =>
      if workers.all WorkerPoint.isStopped then { outbox with retrying := none }.schedule
      else outbox
  | _ => outbox

/-- One turn of a worker: the next key, once the attempt it awaits has settled. -/
def resumeWorker (outbox : Outbox) (worker : Nat) : Outbox :=
  match outbox.retrying with
  | some (.working remaining index workers) =>
      let turn (outbox : Outbox) : Outbox :=
        match outbox.closed, remaining[index]? with
        | false, some key =>
            let (outbox, task) := outbox.attempt key
            { outbox with
              retrying := some (.working remaining (index + 1)
                (workers.set worker (.attempting task))) }
        | _, _ =>
            { outbox with
              retrying := some (.working remaining index (workers.set worker .stopped)) }
      match workers[worker]? with
      | some .ready => turn outbox
      | some (.attempting task) =>
          match outbox.attemptTasks[task]?.map AttemptTask.point with
          | some (.settled _) => turn outbox
          | _ => outbox
      | _ => outbox
  | _ => outbox

def timerFires (outbox : Outbox) : Outbox :=
  if outbox.timer then { outbox with timer := false }.retry else outbox

def AttemptTask.close (task : AttemptTask) : AttemptTask :=
  match task.point with
  | .waiting => { task with point := .refused closedError }
  | .publishing row none => { task with point := .publishing row (some (.error closedError)) }
  | _ => task

/-- `close`: the waiters are refused, and every race with the transport is lost. -/
def close (outbox : Outbox) : Outbox :=
  { outbox with
    closed := true
    timer := false
    waiting := []
    attemptTasks := outbox.attemptTasks.map AttemptTask.close }

end Outbox

end NostrDoubleRatchet.TypeScript
