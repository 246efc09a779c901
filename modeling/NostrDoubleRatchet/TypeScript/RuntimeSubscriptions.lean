import NostrDoubleRatchet.RuntimeSubscriptions
import NostrDoubleRatchet.TypeScript.Events

/-!
The trackers of `directMessageSubscriptions.ts`, which hand out a token for each registered
filter, and what the trackers of both clients report. A token is never registered twice, so
these trackers report exactly what they newly track; an id can be, and then the other client
reports keys again that it was tracking.
-/

namespace NostrDoubleRatchet.TypeScript

/-- The properties of a filter that the trackers read. -/
structure SubscriptionFilter where
  kinds : Option JsonValue
  authors : Option JsonValue
  p : Option JsonValue

namespace SubscriptionFilters

def APP_KEYS_EVENT_KIND : Nat := 37368
def INVITE_RESPONSE_KIND : Nat := 1059

def lowerHexDigit (c : Char) : Bool :=
  c.isDigit || (0x61 ≤ c.toNat && c.toNat ≤ 0x66)

def normalizePubkey (value : JsonValue) : Option String :=
  match value with
  | .string text =>
      let normalized := String.ofList ((jsTrim text).toList.map Char.toLower)
      if normalized.toList.length = 64 ∧ normalized.toList.all lowerHexDigit then some normalized
      else none
  | _ => none

def normalizePubkeys (values : List JsonValue) : List String :=
  (values.filterMap normalizePubkey).foldl (fun pubkeys pubkey =>
    if pubkey ∈ pubkeys then pubkeys else pubkeys ++ [pubkey]) []

/-- `Array.isArray(filter.kinds) && filter.kinds.includes(kind)`. -/
def includesKind (filter : SubscriptionFilter) (kind : Nat) : Bool :=
  match filter.kinds with
  | some (.array kinds) => kinds.any (fun value => match value with
      | .number (some n) => n = kind
      | _ => false)
  | _ => false

/-- The shape of the four functions. -/
def subscriptionPubkeys (kind : Nat) (property : SubscriptionFilter → Option JsonValue)
    (filter : SubscriptionFilter) : List String :=
  if !includesKind filter kind then []
  else
    match property filter with
    | some (.array values) => normalizePubkeys values
    | _ => []

def appKeysSubscriptionAuthors : SubscriptionFilter → List String :=
  subscriptionPubkeys APP_KEYS_EVENT_KIND SubscriptionFilter.authors

def directMessageSubscriptionAuthors : SubscriptionFilter → List String :=
  subscriptionPubkeys MESSAGE_EVENT_KIND SubscriptionFilter.authors

def directMessageSubscriptionRecipients : SubscriptionFilter → List String :=
  subscriptionPubkeys MESSAGE_EVENT_KIND SubscriptionFilter.p

def inviteResponseSubscriptionRecipients : SubscriptionFilter → List String :=
  subscriptionPubkeys INVITE_RESPONSE_KIND SubscriptionFilter.p

def registerValues (values : List String) (refs : RefCounts Nat String) (token : Nat) :
    RefCounts Nat String × List String :=
  refs.register token values

def unregisterValues (token : Nat) (refs : RefCounts Nat String) : RefCounts Nat String :=
  refs.unregister token

end SubscriptionFilters

open SubscriptionFilters

structure DirectMessageSubscriptionTracker where
  nextToken : Nat
  authors : RefCounts Nat String

structure RegisteredRuntimeSubscription where
  token : Nat
  addedAppKeysAuthors : List String
  addedMessageAuthors : List String
  addedMessageRecipients : List String
  addedInviteResponseRecipients : List String

structure RuntimeSubscriptionTracker where
  nextToken : Nat
  appKeysAuthors : RefCounts Nat String
  messageAuthors : RefCounts Nat String
  messageRecipients : RefCounts Nat String
  inviteResponseRecipients : RefCounts Nat String

namespace DirectMessageSubscriptionTracker

def new : DirectMessageSubscriptionTracker := ⟨1, RefCounts.empty⟩

def registerFilter (tracker : DirectMessageSubscriptionTracker) (filter : SubscriptionFilter) :
    DirectMessageSubscriptionTracker × Nat × List String :=
  let token := tracker.nextToken
  let (authors, addedAuthors) :=
    registerValues (directMessageSubscriptionAuthors filter) tracker.authors token
  (⟨token + 1, authors⟩, token, addedAuthors)

def unregister (tracker : DirectMessageSubscriptionTracker) (token : Nat) :
    DirectMessageSubscriptionTracker :=
  { tracker with authors := unregisterValues token tracker.authors }

end DirectMessageSubscriptionTracker

namespace RuntimeSubscriptionTracker

def new : RuntimeSubscriptionTracker :=
  ⟨1, RefCounts.empty, RefCounts.empty, RefCounts.empty, RefCounts.empty⟩

def registerFilter (tracker : RuntimeSubscriptionTracker) (filter : SubscriptionFilter) :
    RuntimeSubscriptionTracker × RegisteredRuntimeSubscription :=
  let token := tracker.nextToken
  let (appKeysAuthors, addedAppKeysAuthors) :=
    registerValues (appKeysSubscriptionAuthors filter) tracker.appKeysAuthors token
  let (messageAuthors, addedMessageAuthors) :=
    registerValues (directMessageSubscriptionAuthors filter) tracker.messageAuthors token
  let (messageRecipients, addedMessageRecipients) :=
    registerValues (directMessageSubscriptionRecipients filter) tracker.messageRecipients token
  let (inviteResponseRecipients, addedInviteResponseRecipients) :=
    registerValues (inviteResponseSubscriptionRecipients filter)
      tracker.inviteResponseRecipients token
  (⟨token + 1, appKeysAuthors, messageAuthors, messageRecipients, inviteResponseRecipients⟩,
    ⟨token, addedAppKeysAuthors, addedMessageAuthors, addedMessageRecipients,
      addedInviteResponseRecipients⟩)

def unregister (tracker : RuntimeSubscriptionTracker) (token : Nat) :
    RuntimeSubscriptionTracker :=
  { tracker with
    appKeysAuthors := unregisterValues token tracker.appKeysAuthors
    messageAuthors := unregisterValues token tracker.messageAuthors
    messageRecipients := unregisterValues token tracker.messageRecipients
    inviteResponseRecipients := unregisterValues token tracker.inviteResponseRecipients }

end RuntimeSubscriptionTracker

/-! Runs of calls. -/

/-- What a filter contributes to a category, whatever its token. -/
def contributed : SubscriptionCategory → Nat → SubscriptionFilter → List String
  | .appKeysAuthors => fun _ => appKeysSubscriptionAuthors
  | .messageAuthors => fun _ => directMessageSubscriptionAuthors
  | .messageRecipients => fun _ => directMessageSubscriptionRecipients
  | .inviteResponseRecipients => fun _ => inviteResponseSubscriptionRecipients

def RuntimeSubscriptionTracker.keys (tracker : RuntimeSubscriptionTracker) :
    SubscriptionCategory → RefCounts Nat String
  | .appKeysAuthors => tracker.appKeysAuthors
  | .messageAuthors => tracker.messageAuthors
  | .messageRecipients => tracker.messageRecipients
  | .inviteResponseRecipients => tracker.inviteResponseRecipients

def RegisteredRuntimeSubscription.added (registered : RegisteredRuntimeSubscription) :
    SubscriptionCategory → List String
  | .appKeysAuthors => registered.addedAppKeysAuthors
  | .messageAuthors => registered.addedMessageAuthors
  | .messageRecipients => registered.addedMessageRecipients
  | .inviteResponseRecipients => registered.addedInviteResponseRecipients

inductive FilterCall where
  | registerFilter (filter : SubscriptionFilter)
  | unregister (token : Nat)

/-- The registered filters by token, and the next token. -/
def FilterCall.update (registered : Nat × SortedMap Nat SubscriptionFilter) :
    FilterCall → Nat × SortedMap Nat SubscriptionFilter
  | .registerFilter filter => (registered.1 + 1, registered.2.insert registered.1 filter)
  | .unregister token => (registered.1, registered.2.erase token)

def FilterCall.registered (calls : List FilterCall) : Nat × SortedMap Nat SubscriptionFilter :=
  calls.foldl FilterCall.update (1, SortedMap.empty)

def RuntimeSubscriptionTracker.perform (tracker : RuntimeSubscriptionTracker) :
    FilterCall → RuntimeSubscriptionTracker
  | .registerFilter filter => (tracker.registerFilter filter).1
  | .unregister token => tracker.unregister token

def RuntimeSubscriptionTracker.run (calls : List FilterCall) : RuntimeSubscriptionTracker :=
  calls.foldl perform new

def DirectMessageSubscriptionTracker.perform (tracker : DirectMessageSubscriptionTracker) :
    FilterCall → DirectMessageSubscriptionTracker
  | .registerFilter filter => (tracker.registerFilter filter).1
  | .unregister token => tracker.unregister token

def DirectMessageSubscriptionTracker.run (calls : List FilterCall) :
    DirectMessageSubscriptionTracker :=
  calls.foldl perform new

theorem nodup_contributed (category : SubscriptionCategory) (token : Nat)
    (filter : SubscriptionFilter) : (contributed category token filter).Nodup := by
  have hpubkeys : ∀ kind property, (subscriptionPubkeys kind property filter).Nodup := by
    intro kind property
    unfold subscriptionPubkeys
    split
    · exact List.nodup_nil
    · split
      · exact nodup_foldl_new _ List.nodup_nil
      · exact List.nodup_nil
  unfold contributed
  cases category with
  | appKeysAuthors => exact hpubkeys _ _
  | messageAuthors => exact hpubkeys _ _
  | messageRecipients => exact hpubkeys _ _
  | inviteResponseRecipients => exact hpubkeys _ _

namespace RuntimeSubscriptionTracker

/-- What a registration does to a category. -/
private theorem keys_registerFilter (tracker : RuntimeSubscriptionTracker)
    (filter : SubscriptionFilter) (category : SubscriptionCategory) :
    (tracker.registerFilter filter).1.keys category =
        ((tracker.keys category).register tracker.nextToken
          (contributed category tracker.nextToken filter)).1 ∧
      (tracker.registerFilter filter).2.added category =
        ((tracker.keys category).register tracker.nextToken
          (contributed category tracker.nextToken filter)).2 := by
  unfold registerFilter registerValues keys RegisteredRuntimeSubscription.added contributed
  cases category with
  | appKeysAuthors => simp only [and_self]
  | messageAuthors => simp only [and_self]
  | messageRecipients => simp only [and_self]
  | inviteResponseRecipients => simp only [and_self]

private theorem keys_unregister (tracker : RuntimeSubscriptionTracker) (token : Nat)
    (category : SubscriptionCategory) :
    (tracker.unregister token).keys category = (tracker.keys category).unregister token := by
  cases category with
  | appKeysAuthors => rfl
  | messageAuthors => rfl
  | messageRecipients => rfl
  | inviteResponseRecipients => rfl

/-- The next token is new, and the counts of every category are those of the registered
filters. -/
theorem tracks_run (calls : List FilterCall) :
    (run calls).nextToken = (FilterCall.registered calls).1 ∧
    (∀ token, (FilterCall.registered calls).1 ≤ token →
      (FilterCall.registered calls).2.get? token = none) ∧
    ∀ category, RefCounts.Tracks (contributed category) (FilterCall.registered calls).2
      ((run calls).keys category) := by
  induction calls using List.reverseRecOn with
  | nil =>
      refine ⟨rfl, fun _ _ => rfl, fun category => ?_⟩
      cases category with
      | appKeysAuthors => exact RefCounts.tracks_empty
      | messageAuthors => exact RefCounts.tracks_empty
      | messageRecipients => exact RefCounts.tracks_empty
      | inviteResponseRecipients => exact RefCounts.tracks_empty
  | append_singleton rest call ih =>
      unfold run FilterCall.registered at ih ⊢
      rw [List.foldl_append, List.foldl_cons, List.foldl_nil, List.foldl_append, List.foldl_cons,
        List.foldl_nil]
      generalize rest.foldl perform new = tracker at ih ⊢
      generalize rest.foldl FilterCall.update (1, SortedMap.empty) = registered at ih ⊢
      obtain ⟨hnext, hfresh, htracks⟩ := ih
      cases call with
      | registerFilter filter =>
          refine ⟨congrArg (· + 1) hnext, fun token htoken => ?_, fun category => ?_⟩
          · have hlater : registered.1 < token := htoken
            change (registered.2.insert registered.1 filter).get? token = none
            rw [SortedMap.get?_insert_ne _ _ (Nat.ne_of_lt hlater)]
            exact hfresh token (Nat.le_of_lt hlater)
          · change RefCounts.Tracks _ (registered.2.insert registered.1 filter)
              ((tracker.registerFilter filter).1.keys category)
            rw [(tracker.keys_registerFilter filter category).1, hnext]
            exact ((htracks category).register (hfresh _ le_rfl)
              (nodup_contributed category _ filter)).1
      | unregister token =>
          refine ⟨hnext, fun later hlater => ?_, fun category => ?_⟩
          · change (registered.2.erase token).get? later = none
            rw [SortedMap.get?_erase]
            split
            · rfl
            · exact hfresh later hlater
          · change RefCounts.Tracks _ (registered.2.erase token)
              ((tracker.unregister token).keys category)
            rw [tracker.keys_unregister token category]
            exact (htracks category).unregister token (nodup_contributed category token)

/-- A registration reports exactly what it newly tracks. -/
theorem newlyTracked_registerFilter (calls : List FilterCall) (filter : SubscriptionFilter)
    (category : SubscriptionCategory) :
    RefCounts.NewlyTracked ((run calls).keys category)
      (((run calls).registerFilter filter).1.keys category)
      (((run calls).registerFilter filter).2.added category) := by
  obtain ⟨hnext, hfresh, htracks⟩ := tracks_run calls
  obtain ⟨hkeys, hadded⟩ := (run calls).keys_registerFilter filter category
  rw [hkeys, hadded]
  refine (htracks category).newlyTracked_register (hfresh _ ?_)
    (nodup_contributed category _ filter)
  rw [hnext]

end RuntimeSubscriptionTracker

namespace DirectMessageSubscriptionTracker

/-- The tracker is the part of a runtime tracker that tracks message authors. -/
theorem run_eq (calls : List FilterCall) :
    run calls = ⟨(RuntimeSubscriptionTracker.run calls).nextToken,
      (RuntimeSubscriptionTracker.run calls).messageAuthors⟩ := by
  induction calls using List.reverseRecOn with
  | nil => rfl
  | append_singleton rest call ih =>
      unfold run RuntimeSubscriptionTracker.run at ih ⊢
      rw [List.foldl_append, List.foldl_cons, List.foldl_nil, ih, List.foldl_append,
        List.foldl_cons, List.foldl_nil]
      cases call with
      | registerFilter filter => rfl
      | unregister token => rfl

end DirectMessageSubscriptionTracker

/-! What the trackers of both clients report. -/

/-- The tracked keys are what the registrations contribute, and each is counted once for every
registration that contributes it. -/
def Accounted {ι φ α : Type} [LinearOrder ι] [LinearOrder α] (contributes : ι → φ → List α)
    (registered : SortedMap ι φ) (refs : RefCounts ι α) : Prop :=
  refs.tracked = (RefCounts.union contributes registered).toList ∧
    ∀ key, refs.counts.get? key =
      if RefCounts.contributors contributes registered key = 0 then none
      else some (RefCounts.contributors contributes registered key)

private theorem accounted {ι φ α : Type} [LinearOrder ι] [LinearOrder α]
    {contributes : ι → φ → List α} {registered : SortedMap ι φ} {refs : RefCounts ι α}
    (h : RefCounts.Tracks contributes registered refs) : Accounted contributes registered refs :=
  ⟨h.tracked_eq, h.counts⟩

/-- After any calls the trackers of both clients account for the registered filters. The
TypeScript trackers report what a filter newly tracks. The others do so exactly unless the
filter names a key again that, of all registered filters, only the one it replaces had named. -/
theorem subscription_trackers_accounted {K : Type} [LinearOrder K] [SubscriptionCodec K] :
    (∀ calls category,
      Accounted (category.contributed : String → String → List K)
        (SubscriptionCall.registered calls)
        ((NostrDoubleRatchet.RuntimeSubscriptionTracker.run calls).keys category) ∧
      ∀ subid filterJson,
        RefCounts.NewlyTracked
            ((NostrDoubleRatchet.RuntimeSubscriptionTracker.run (K := K) calls).keys category)
            (((NostrDoubleRatchet.RuntimeSubscriptionTracker.run calls).registerSubscription subid
              filterJson).1.keys category)
            (((NostrDoubleRatchet.RuntimeSubscriptionTracker.run calls).registerSubscription subid
              filterJson).2.added category) ↔
          ¬ RefCounts.Renews (category.contributed : String → String → List K)
            (SubscriptionCall.registered calls) (trim subid) filterJson) ∧
    (∀ calls,
      Accounted (Subscriptions.directMessageSubscriptionAuthors : String → String → List K)
        (SubscriptionCall.registered calls)
        (NostrDoubleRatchet.DirectMessageSubscriptionTracker.run calls).authors ∧
      ∀ subid filterJson,
        RefCounts.NewlyTracked
            (NostrDoubleRatchet.DirectMessageSubscriptionTracker.run (K := K) calls).authors
            ((NostrDoubleRatchet.DirectMessageSubscriptionTracker.run calls).registerSubscription
              subid filterJson).1.authors
            ((NostrDoubleRatchet.DirectMessageSubscriptionTracker.run calls).registerSubscription
              subid filterJson).2 ↔
          ¬ RefCounts.Renews
            (Subscriptions.directMessageSubscriptionAuthors : String → String → List K)
            (SubscriptionCall.registered calls) (trim subid) filterJson) ∧
    (∀ calls category,
      Accounted (contributed category) (FilterCall.registered calls).2
        ((RuntimeSubscriptionTracker.run calls).keys category) ∧
      ∀ filter, RefCounts.NewlyTracked ((RuntimeSubscriptionTracker.run calls).keys category)
        (((RuntimeSubscriptionTracker.run calls).registerFilter filter).1.keys category)
        (((RuntimeSubscriptionTracker.run calls).registerFilter filter).2.added category)) ∧
    (∀ calls,
      Accounted (fun _ => directMessageSubscriptionAuthors) (FilterCall.registered calls).2
        (DirectMessageSubscriptionTracker.run calls).authors ∧
      ∀ filter, RefCounts.NewlyTracked (DirectMessageSubscriptionTracker.run calls).authors
        ((DirectMessageSubscriptionTracker.run calls).registerFilter filter).1.authors
        ((DirectMessageSubscriptionTracker.run calls).registerFilter filter).2.2) := by
  refine ⟨fun calls category => ⟨?_, fun subid filterJson => ?_⟩,
    fun calls => ⟨?_, fun subid filterJson => ?_⟩,
    fun calls category => ⟨?_, fun filter => ?_⟩, fun calls => ⟨?_, fun filter => ?_⟩⟩
  · exact accounted (NostrDoubleRatchet.RuntimeSubscriptionTracker.tracks_run calls category)
  · exact NostrDoubleRatchet.RuntimeSubscriptionTracker.newlyTracked_iff calls subid filterJson
      category
  · rw [NostrDoubleRatchet.DirectMessageSubscriptionTracker.authors_run]
    exact accounted
      (NostrDoubleRatchet.RuntimeSubscriptionTracker.tracks_run calls .messageAuthors)
  · have hauthors := NostrDoubleRatchet.DirectMessageSubscriptionTracker.authors_run (K := K) calls
    obtain ⟨hafter, hadded⟩ :=
      NostrDoubleRatchet.DirectMessageSubscriptionTracker.registerSubscription_eq hauthors subid
        filterJson
    rw [hafter, hadded, hauthors]
    exact NostrDoubleRatchet.RuntimeSubscriptionTracker.newlyTracked_iff calls subid filterJson
      .messageAuthors
  · exact accounted ((RuntimeSubscriptionTracker.tracks_run calls).2.2 category)
  · exact RuntimeSubscriptionTracker.newlyTracked_registerFilter calls filter category
  · rw [DirectMessageSubscriptionTracker.run_eq]
    exact accounted ((RuntimeSubscriptionTracker.tracks_run calls).2.2 .messageAuthors)
  · rw [DirectMessageSubscriptionTracker.run_eq]
    exact RuntimeSubscriptionTracker.newlyTracked_registerFilter calls filter .messageAuthors

/-! A key reported again. -/

/-- A filter for the messages of one author. -/
def oneAuthor : String :=
  "\x7b\"kinds\":[1060],\"authors\":[\"" ++ String.ofList (List.replicate 64 'a') ++ "\"]\x7d"

/-- A codec that reads this filter, with the key of its digits. -/
@[reducible] def exampleCodec : SubscriptionCodec Nat where
  valueFromJson text :=
    if text = oneAuthor then
      some (.object [("kinds", .array [.number 1060]),
        ("authors", .array [.string (String.ofList (List.replicate 64 'a'))])])
    else none
  publicKeyFromSlice bytes := some (bytes.foldl (fun n byte => 256 * n + byte.toNat) 0)

attribute [local instance] exampleCodec

/-- Registering the same filter under the same id again reports its author again. -/
theorem registered_again_reports_again :
    ∃ author, author ∈ ((NostrDoubleRatchet.RuntimeSubscriptionTracker.run (K := Nat)
        [.register "ndr-runtime-messages" oneAuthor]).keys .messageAuthors).tracked ∧
      author ∈ ((NostrDoubleRatchet.RuntimeSubscriptionTracker.run (K := Nat)
        [.register "ndr-runtime-messages" oneAuthor]).registerSubscription "ndr-runtime-messages"
          oneAuthor).2.addedMessageAuthors := by
  refine ⟨0xaaaaaaaaaaaaaaaaaaaaaaaaaaaaaaaaaaaaaaaaaaaaaaaaaaaaaaaaaaaaaaaa, ?_, ?_⟩
  · decide +kernel
  · decide +kernel

end NostrDoubleRatchet.TypeScript
