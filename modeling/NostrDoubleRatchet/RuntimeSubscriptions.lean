import Mathlib.Data.List.Sort
import Mathlib.Data.String.Basic
import NostrDoubleRatchet.AppKeys
import NostrDoubleRatchet.Lib.HexText
import NostrDoubleRatchet.Lib.RefCounts
import NostrDoubleRatchet.Pairwise.Codec

/-!
The trackers of `direct_message_subscriptions.rs`. A subscription is registered under an id
with the JSON of its filter, and contributes the keys the filter names to as many as four
sets of tracked keys. Registering an id again replaces what it contributed.
-/

namespace NostrDoubleRatchet

open PairwiseCodec (JsonValue)

/-- JSON and keys, as the crates read them. -/
class SubscriptionCodec (K : Type) where
  valueFromJson : String → Option JsonValue
  publicKeyFromSlice : List UInt8 → Option K

namespace Subscriptions

def APP_KEYS_EVENT_KIND : UInt64 := 37368
def MESSAGE_EVENT_KIND : UInt64 := 1060
def INVITE_RESPONSE_KIND : UInt64 := 1059

def DIRECT_MESSAGE_RUNTIME_SUBSCRIPTION_ID : String := "ndr-runtime-messages"
def DIRECT_MESSAGE_RUNTIME_SUBSCRIPTION_PREFIX : String := "ndr-runtime-messages-"
def DIRECT_MESSAGE_PROTOCOL_SUBSCRIPTION_ID : String := "icp-messages"
def DIRECT_MESSAGE_PROTOCOL_SUBSCRIPTION_PREFIX : String := "icp-messages-"
def SESSION_CURRENT_SUBSCRIPTION_PREFIX : String := "session-current-"
def SESSION_NEXT_SUBSCRIPTION_PREFIX : String := "session-next-"
def INVITE_RESPONSE_SUBSCRIPTION_PREFIX : String := "invite-responses-"

def startsWith (text start : String) : Bool := start.toList.isPrefixOf text.toList

def isDirectMessageSubscriptionId (subid : String) : Bool :=
  subid ≠ "" && (subid = DIRECT_MESSAGE_RUNTIME_SUBSCRIPTION_ID ||
    startsWith subid DIRECT_MESSAGE_RUNTIME_SUBSCRIPTION_PREFIX ||
    subid = DIRECT_MESSAGE_PROTOCOL_SUBSCRIPTION_ID ||
    startsWith subid DIRECT_MESSAGE_PROTOCOL_SUBSCRIPTION_PREFIX ||
    startsWith subid SESSION_CURRENT_SUBSCRIPTION_PREFIX ||
    startsWith subid SESSION_NEXT_SUBSCRIPTION_PREFIX)

def isInviteResponseSubscriptionId (subid : String) : Bool :=
  subid ≠ "" && startsWith subid INVITE_RESPONSE_SUBSCRIPTION_PREFIX

def hasKind (decodedFilter : JsonValue) (kind : UInt64) : Bool :=
  match decodedFilter.get "kinds" with
  | some (.array kinds) => kinds.any (fun value => value.asU64 = some kind)
  | _ => false

variable {K : Type} [LinearOrder K] [SubscriptionCodec K]

omit [LinearOrder K] in
def pubkeyFromHex (text : String) : Option K :=
  match HexText.decode text with
  | none => none
  | some bytes =>
      if bytes.length ≠ 32 then none else SubscriptionCodec.publicKeyFromSlice bytes

omit [LinearOrder K] in
/-- One turn of the loop over the values: a text of 64 bytes that is a key. -/
def parsePubkeyValue (value : JsonValue) : Option K :=
  match value.asStr with
  | none => none
  | some pubkeyHex =>
      let normalized := String.ofList ((trim pubkeyHex).toList.map Char.toLower)
      if normalized.utf8ByteSize ≠ 64 then none else pubkeyFromHex normalized

attribute [local instance] SortedMap.lawfulBEq

/-- The keys of an array, each once. -/
def parsePubkeyValues : Option JsonValue → List K
  | some (.array values) =>
      (values.filterMap parsePubkeyValue).foldl (fun parsed pubkey =>
        if pubkey ∈ parsed then parsed else parsed ++ [pubkey]) []
  | _ => []

/-- The shape of the four functions: a subscription with the right sort of id whose filter
asks for `kind` contributes the keys listed under `field`. -/
def subscriptionPubkeys (isSubscriptionId : String → Bool) (kind : UInt64) (field : String)
    (subid filterJson : String) : List K :=
  if !isSubscriptionId (trim subid) then []
  else
    match SubscriptionCodec.valueFromJson K filterJson with
    | some (.object fields) =>
        if !hasKind (.object fields) kind then []
        else parsePubkeyValues ((JsonValue.object fields).get field)
    | _ => []

def appKeysSubscriptionAuthors (subid filterJson : String) : List K :=
  subscriptionPubkeys (· ≠ "") APP_KEYS_EVENT_KIND "authors" subid filterJson

def directMessageSubscriptionAuthors (subid filterJson : String) : List K :=
  subscriptionPubkeys isDirectMessageSubscriptionId MESSAGE_EVENT_KIND "authors" subid filterJson

def directMessageSubscriptionRecipients (subid filterJson : String) : List K :=
  subscriptionPubkeys isDirectMessageSubscriptionId MESSAGE_EVENT_KIND "#p" subid filterJson

def inviteResponseSubscriptionRecipients (subid filterJson : String) : List K :=
  subscriptionPubkeys isInviteResponseSubscriptionId INVITE_RESPONSE_KIND "#p" subid filterJson

/-! The trackers. The keys are ordered as their hex texts are. -/

omit [SubscriptionCodec K] in
def registerPubkeys (pubkeys : RefCounts String K) (subid : String) (values : List K) :
    RefCounts String K × List K :=
  let (next, added) := pubkeys.register subid values
  (next, added.insertionSort (· ≤ ·))

omit [SubscriptionCodec K] in
def unregisterPubkeys (pubkeys : RefCounts String K) (subid : String) : RefCounts String K :=
  pubkeys.unregister subid

end Subscriptions

open Subscriptions

structure DirectMessageSubscriptionTracker (K : Type) [LinearOrder K] where
  authors : RefCounts String K

structure RuntimeSubscriptionRegistration (K : Type) where
  addedAppKeysAuthors : List K
  addedMessageAuthors : List K
  addedMessageRecipients : List K
  addedInviteResponseRecipients : List K

structure RuntimeSubscriptionTracker (K : Type) [LinearOrder K] where
  appKeysAuthors : RefCounts String K
  messageAuthors : RefCounts String K
  messageRecipients : RefCounts String K
  inviteResponseRecipients : RefCounts String K

variable {K : Type} [LinearOrder K]

namespace DirectMessageSubscriptionTracker

def new : DirectMessageSubscriptionTracker K := ⟨RefCounts.empty⟩

def unregisterSubscription (tracker : DirectMessageSubscriptionTracker K) (subid : String) :
    DirectMessageSubscriptionTracker K :=
  let subid := trim subid
  if subid = "" then tracker else ⟨unregisterPubkeys tracker.authors subid⟩

def registerSubscription [SubscriptionCodec K] (tracker : DirectMessageSubscriptionTracker K)
    (subid filterJson : String) : DirectMessageSubscriptionTracker K × List K :=
  let subid := trim subid
  if subid = "" then (tracker, [])
  else
    let tracker := tracker.unregisterSubscription subid
    let (authors, added) := registerPubkeys tracker.authors subid
      (directMessageSubscriptionAuthors subid filterJson)
    (⟨authors⟩, added)

def trackedAuthors (tracker : DirectMessageSubscriptionTracker K) : List K :=
  tracker.authors.tracked

end DirectMessageSubscriptionTracker

namespace RuntimeSubscriptionTracker

def new : RuntimeSubscriptionTracker K :=
  ⟨RefCounts.empty, RefCounts.empty, RefCounts.empty, RefCounts.empty⟩

def unregisterSubscription (tracker : RuntimeSubscriptionTracker K) (subid : String) :
    RuntimeSubscriptionTracker K :=
  let subid := trim subid
  if subid = "" then tracker
  else
    { appKeysAuthors := unregisterPubkeys tracker.appKeysAuthors subid
      messageAuthors := unregisterPubkeys tracker.messageAuthors subid
      messageRecipients := unregisterPubkeys tracker.messageRecipients subid
      inviteResponseRecipients := unregisterPubkeys tracker.inviteResponseRecipients subid }

def registerSubscription [SubscriptionCodec K] (tracker : RuntimeSubscriptionTracker K)
    (subid filterJson : String) :
    RuntimeSubscriptionTracker K × RuntimeSubscriptionRegistration K :=
  let subid := trim subid
  if subid = "" then (tracker, ⟨[], [], [], []⟩)
  else
    let tracker := tracker.unregisterSubscription subid
    let (appKeysAuthors, addedAppKeysAuthors) := registerPubkeys tracker.appKeysAuthors subid
      (appKeysSubscriptionAuthors subid filterJson)
    let (messageAuthors, addedMessageAuthors) := registerPubkeys tracker.messageAuthors subid
      (directMessageSubscriptionAuthors subid filterJson)
    let (messageRecipients, addedMessageRecipients) :=
      registerPubkeys tracker.messageRecipients subid
        (directMessageSubscriptionRecipients subid filterJson)
    let (inviteResponseRecipients, addedInviteResponseRecipients) :=
      registerPubkeys tracker.inviteResponseRecipients subid
        (inviteResponseSubscriptionRecipients subid filterJson)
    (⟨appKeysAuthors, messageAuthors, messageRecipients, inviteResponseRecipients⟩,
      ⟨addedAppKeysAuthors, addedMessageAuthors, addedMessageRecipients,
        addedInviteResponseRecipients⟩)

end RuntimeSubscriptionTracker

/-! Runs of calls. -/

inductive SubscriptionCategory where
  | appKeysAuthors
  | messageAuthors
  | messageRecipients
  | inviteResponseRecipients

/-- What a subscription contributes to a category. -/
def SubscriptionCategory.contributed [SubscriptionCodec K] :
    SubscriptionCategory → String → String → List K
  | .appKeysAuthors => appKeysSubscriptionAuthors
  | .messageAuthors => directMessageSubscriptionAuthors
  | .messageRecipients => directMessageSubscriptionRecipients
  | .inviteResponseRecipients => inviteResponseSubscriptionRecipients

def RuntimeSubscriptionTracker.keys (tracker : RuntimeSubscriptionTracker K) :
    SubscriptionCategory → RefCounts String K
  | .appKeysAuthors => tracker.appKeysAuthors
  | .messageAuthors => tracker.messageAuthors
  | .messageRecipients => tracker.messageRecipients
  | .inviteResponseRecipients => tracker.inviteResponseRecipients

omit [LinearOrder K] in
def RuntimeSubscriptionRegistration.added (registration : RuntimeSubscriptionRegistration K) :
    SubscriptionCategory → List K
  | .appKeysAuthors => registration.addedAppKeysAuthors
  | .messageAuthors => registration.addedMessageAuthors
  | .messageRecipients => registration.addedMessageRecipients
  | .inviteResponseRecipients => registration.addedInviteResponseRecipients

inductive SubscriptionCall where
  | register (subid filterJson : String)
  | unregister (subid : String)

/-- The latest filter of every registered id, by the id without white space at its ends. -/
def SubscriptionCall.update (registered : SortedMap String String) :
    SubscriptionCall → SortedMap String String
  | .register subid filterJson =>
      if trim subid = "" then registered else registered.insert (trim subid) filterJson
  | .unregister subid => registered.erase (trim subid)

def SubscriptionCall.registered (calls : List SubscriptionCall) : SortedMap String String :=
  calls.foldl SubscriptionCall.update SortedMap.empty

section

variable [SubscriptionCodec K]

def RuntimeSubscriptionTracker.perform (tracker : RuntimeSubscriptionTracker K) :
    SubscriptionCall → RuntimeSubscriptionTracker K
  | .register subid filterJson => (tracker.registerSubscription subid filterJson).1
  | .unregister subid => tracker.unregisterSubscription subid

def RuntimeSubscriptionTracker.run (calls : List SubscriptionCall) : RuntimeSubscriptionTracker K :=
  calls.foldl perform new

def DirectMessageSubscriptionTracker.perform (tracker : DirectMessageSubscriptionTracker K) :
    SubscriptionCall → DirectMessageSubscriptionTracker K
  | .register subid filterJson => (tracker.registerSubscription subid filterJson).1
  | .unregister subid => tracker.unregisterSubscription subid

def DirectMessageSubscriptionTracker.run (calls : List SubscriptionCall) :
    DirectMessageSubscriptionTracker K :=
  calls.foldl perform new

omit [LinearOrder K] [SubscriptionCodec K] in
/-- Collecting each item once. -/
theorem nodup_foldl_new [DecidableEq K] (items : List K) {kept : List K} (h : kept.Nodup) :
    (items.foldl (fun kept item => if item ∈ kept then kept else kept ++ [item]) kept).Nodup := by
  induction items generalizing kept with
  | nil => exact h
  | cons item rest ih =>
      refine ih ?_
      change (if item ∈ kept then kept else kept ++ [item]).Nodup
      split
      · exact h
      · rename_i hnew
        refine List.nodup_append.mpr ⟨h, List.nodup_singleton item, ?_⟩
        intro a ha b hb
        rw [List.mem_singleton.mp hb]
        rintro rfl
        exact hnew ha

private theorem nodup_parsePubkeyValues (values : Option JsonValue) :
    (parsePubkeyValues values : List K).Nodup := by
  unfold parsePubkeyValues
  split
  · exact nodup_foldl_new _ List.nodup_nil
  · exact List.nodup_nil

theorem SubscriptionCategory.nodup_contributed (category : SubscriptionCategory)
    (subid filterJson : String) : (category.contributed subid filterJson : List K).Nodup := by
  have hpubkeys : ∀ isSubscriptionId kind field,
      (subscriptionPubkeys isSubscriptionId kind field subid filterJson : List K).Nodup := by
    intro isSubscriptionId kind field
    unfold subscriptionPubkeys
    split
    · exact List.nodup_nil
    · split
      · split
        · exact List.nodup_nil
        · exact nodup_parsePubkeyValues _
      · exact List.nodup_nil
  unfold contributed
  cases category with
  | appKeysAuthors => exact hpubkeys (· ≠ "") APP_KEYS_EVENT_KIND "authors"
  | messageAuthors =>
      exact hpubkeys isDirectMessageSubscriptionId Subscriptions.MESSAGE_EVENT_KIND "authors"
  | messageRecipients =>
      exact hpubkeys isDirectMessageSubscriptionId Subscriptions.MESSAGE_EVENT_KIND "#p"
  | inviteResponseRecipients =>
      exact hpubkeys isInviteResponseSubscriptionId Subscriptions.INVITE_RESPONSE_KIND "#p"

namespace RuntimeSubscriptionTracker

/-- What a registration under a nonempty id does to a category. -/
private theorem keys_registerSubscription (tracker : RuntimeSubscriptionTracker K)
    {subid : String} (hid : trim subid ≠ "") (filterJson : String)
    (category : SubscriptionCategory) :
    (tracker.registerSubscription subid filterJson).1.keys category =
        ((tracker.keys category).replace (trim subid)
          (category.contributed (trim subid) filterJson)).1 ∧
      (tracker.registerSubscription subid filterJson).2.added category =
        (((tracker.keys category).replace (trim subid)
          (category.contributed (trim subid) filterJson)).2).insertionSort (· ≤ ·) := by
  have htwice : trim (trim subid) = trim subid := trimmed_trim subid
  have hdropped : tracker.unregisterSubscription (trim subid) =
      ⟨unregisterPubkeys tracker.appKeysAuthors (trim subid),
        unregisterPubkeys tracker.messageAuthors (trim subid),
        unregisterPubkeys tracker.messageRecipients (trim subid),
        unregisterPubkeys tracker.inviteResponseRecipients (trim subid)⟩ := by
    unfold unregisterSubscription
    rw [htwice]
    exact if_neg hid
  have hkeys : ∀ (refs : RefCounts String K) values,
      registerPubkeys (unregisterPubkeys refs (trim subid)) (trim subid) values =
        ((refs.replace (trim subid) values).1,
          (refs.replace (trim subid) values).2.insertionSort (· ≤ ·)) := fun _ _ => rfl
  unfold registerSubscription
  dsimp only
  rw [if_neg hid, hdropped]
  simp only [hkeys]
  unfold keys RuntimeSubscriptionRegistration.added SubscriptionCategory.contributed
  cases category with
  | appKeysAuthors => simp only [and_self]
  | messageAuthors => simp only [and_self]
  | messageRecipients => simp only [and_self]
  | inviteResponseRecipients => simp only [and_self]

omit [SubscriptionCodec K] in
private theorem keys_unregisterSubscription (tracker : RuntimeSubscriptionTracker K)
    {subid : String} (hid : trim subid ≠ "") (category : SubscriptionCategory) :
    (tracker.unregisterSubscription subid).keys category =
      (tracker.keys category).unregister (trim subid) := by
  unfold unregisterSubscription
  dsimp only
  rw [if_neg hid]
  unfold keys
  cases category with
  | appKeysAuthors => rfl
  | messageAuthors => rfl
  | messageRecipients => rfl
  | inviteResponseRecipients => rfl

end RuntimeSubscriptionTracker

private theorem registered_empty (calls : List SubscriptionCall) :
    (SubscriptionCall.registered calls).get? "" = none := by
  induction calls using List.reverseRecOn with
  | nil => rfl
  | append_singleton rest call ih =>
      unfold SubscriptionCall.registered at ih ⊢
      rw [List.foldl_append, List.foldl_cons, List.foldl_nil]
      cases call with
      | register subid filterJson =>
          unfold SubscriptionCall.update
          dsimp only
          split
          · exact ih
          · rename_i hid
            rw [SortedMap.get?_insert_ne _ _ hid]
            exact ih
      | unregister subid =>
          change (SortedMap.erase _ _).get? "" = none
          rw [SortedMap.get?_erase]
          split
          · rfl
          · exact ih

/-- In every category the counts of a runtime tracker are those of the registered ids. -/
theorem RuntimeSubscriptionTracker.tracks_run (calls : List SubscriptionCall)
    (category : SubscriptionCategory) :
    RefCounts.Tracks category.contributed (SubscriptionCall.registered calls)
      ((run calls : RuntimeSubscriptionTracker K).keys category) := by
  induction calls using List.reverseRecOn with
  | nil =>
      cases category with
      | appKeysAuthors => exact RefCounts.tracks_empty
      | messageAuthors => exact RefCounts.tracks_empty
      | messageRecipients => exact RefCounts.tracks_empty
      | inviteResponseRecipients => exact RefCounts.tracks_empty
  | append_singleton rest call ih =>
      have hempty := registered_empty rest
      unfold run SubscriptionCall.registered at ih ⊢
      rw [List.foldl_append, List.foldl_cons, List.foldl_nil, List.foldl_append, List.foldl_cons,
        List.foldl_nil]
      generalize rest.foldl perform (new : RuntimeSubscriptionTracker K) = tracker at ih ⊢
      change SortedMap.get? (rest.foldl SubscriptionCall.update SortedMap.empty) "" = none at hempty
      generalize rest.foldl SubscriptionCall.update SortedMap.empty = registered at ih hempty ⊢
      cases call with
      | register subid filterJson =>
          unfold perform SubscriptionCall.update
          dsimp only
          by_cases hid : trim subid = ""
          · have hsame : tracker.registerSubscription subid filterJson =
                (tracker, ⟨[], [], [], []⟩) := if_pos hid
            rw [if_pos hid, hsame]
            exact ih
          · rw [if_neg hid, (tracker.keys_registerSubscription hid filterJson category).1]
            exact (ih.replace (trim subid) filterJson (category.nodup_contributed _)).1
      | unregister subid =>
          change RefCounts.Tracks _ (registered.erase (trim subid))
            ((tracker.unregisterSubscription subid).keys category)
          by_cases hid : trim subid = ""
          · have hsame : tracker.unregisterSubscription subid = tracker := if_pos hid
            rw [hsame, hid, SortedMap.erase_of_get?_none hempty]
            exact ih
          · rw [tracker.keys_unregisterSubscription hid category]
            exact ih.unregister (trim subid) (category.nodup_contributed _)

/-- A registration reports what it newly tracks, exactly unless its filter names a key again
that only the replaced filter of its id had named. -/
theorem RuntimeSubscriptionTracker.newlyTracked_iff (calls : List SubscriptionCall)
    (subid filterJson : String) (category : SubscriptionCategory) :
    RefCounts.NewlyTracked ((run calls : RuntimeSubscriptionTracker K).keys category)
        (((run calls : RuntimeSubscriptionTracker K).registerSubscription subid
          filterJson).1.keys category)
        (((run calls : RuntimeSubscriptionTracker K).registerSubscription subid
          filterJson).2.added category) ↔
      ¬ RefCounts.Renews (category.contributed : String → String → List K)
        (SubscriptionCall.registered calls) (trim subid) filterJson := by
  have htracks := tracks_run (K := K) calls category
  have hempty := registered_empty calls
  generalize (run calls : RuntimeSubscriptionTracker K) = tracker at htracks ⊢
  by_cases hid : trim subid = ""
  · have hsame : tracker.registerSubscription subid filterJson = (tracker, ⟨[], [], [], []⟩) :=
      if_pos hid
    rw [hsame, hid]
    constructor
    · rintro - ⟨old, a, hget, -⟩
      rw [hempty] at hget
      cases hget
    · intro _
      have hnone : (⟨[], [], [], []⟩ : RuntimeSubscriptionRegistration K).added category = [] := by
        cases category with
        | appKeysAuthors => rfl
        | messageAuthors => rfl
        | messageRecipients => rfl
        | inviteResponseRecipients => rfl
      rw [hnone]
      refine ⟨List.nodup_nil, fun a => ⟨fun ha => absurd ha List.not_mem_nil, ?_⟩⟩
      rintro ⟨hin, hout⟩
      exact absurd hin hout
  · obtain ⟨hkeys, hadded⟩ := tracker.keys_registerSubscription hid filterJson category
    rw [hkeys, hadded, RefCounts.NewlyTracked.perm (List.perm_insertionSort _ _)]
    exact htracks.newlyTracked_replace_iff (trim subid) filterJson (category.nodup_contributed _)

namespace DirectMessageSubscriptionTracker

/-- The tracker is the part of a runtime tracker that tracks message authors. -/
theorem registerSubscription_eq {tracker : DirectMessageSubscriptionTracker K}
    {runtime : RuntimeSubscriptionTracker K} (h : tracker.authors = runtime.messageAuthors)
    (subid filterJson : String) :
    (tracker.registerSubscription subid filterJson).1.authors =
        (runtime.registerSubscription subid filterJson).1.messageAuthors ∧
      (tracker.registerSubscription subid filterJson).2 =
        (runtime.registerSubscription subid filterJson).2.addedMessageAuthors := by
  by_cases hid : trim subid = ""
  · have hsame : tracker.registerSubscription subid filterJson = (tracker, []) := if_pos hid
    have hruntime : runtime.registerSubscription subid filterJson =
        (runtime, ⟨[], [], [], []⟩) := if_pos hid
    rw [hsame, hruntime]
    exact ⟨h, rfl⟩
  · have htwice : trim (trim subid) = trim subid := trimmed_trim subid
    obtain ⟨hkeys, hadded⟩ := runtime.keys_registerSubscription hid filterJson .messageAuthors
    unfold RuntimeSubscriptionTracker.keys SubscriptionCategory.contributed at hkeys hadded
    unfold RuntimeSubscriptionRegistration.added at hadded
    dsimp only at hkeys hadded
    rw [hkeys, hadded, ← h]
    have hdropped : tracker.unregisterSubscription (trim subid) =
        ⟨unregisterPubkeys tracker.authors (trim subid)⟩ := by
      unfold unregisterSubscription
      rw [htwice]
      exact if_neg hid
    have hrefs : ∀ (refs : RefCounts String K) values,
        registerPubkeys (unregisterPubkeys refs (trim subid)) (trim subid) values =
          ((refs.replace (trim subid) values).1,
            (refs.replace (trim subid) values).2.insertionSort (· ≤ ·)) := fun _ _ => rfl
    unfold registerSubscription
    dsimp only
    rw [if_neg hid, hdropped]
    simp only [hrefs, and_self]

theorem authors_run (calls : List SubscriptionCall) :
    (run calls : DirectMessageSubscriptionTracker K).authors =
      (RuntimeSubscriptionTracker.run calls : RuntimeSubscriptionTracker K).messageAuthors := by
  induction calls using List.reverseRecOn with
  | nil => rfl
  | append_singleton rest call ih =>
      unfold run RuntimeSubscriptionTracker.run at ih ⊢
      rw [List.foldl_append, List.foldl_cons, List.foldl_nil, List.foldl_append, List.foldl_cons,
        List.foldl_nil]
      generalize rest.foldl perform (new : DirectMessageSubscriptionTracker K) = tracker at ih ⊢
      generalize rest.foldl RuntimeSubscriptionTracker.perform
        (RuntimeSubscriptionTracker.new : RuntimeSubscriptionTracker K) = runtime at ih ⊢
      cases call with
      | register subid filterJson => exact (registerSubscription_eq ih subid filterJson).1
      | unregister subid =>
          change (tracker.unregisterSubscription subid).authors =
            (runtime.unregisterSubscription subid).messageAuthors
          unfold unregisterSubscription RuntimeSubscriptionTracker.unregisterSubscription
          dsimp only
          split
          · exact ih
          · rw [ih]

end DirectMessageSubscriptionTracker

end

end NostrDoubleRatchet
