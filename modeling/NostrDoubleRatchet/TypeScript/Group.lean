import NostrDoubleRatchet.TypeScript.SenderKey

/-!
The group channel of `GroupChannel.ts` and `group/`: the maps between sender devices and
sender-event keys, the sender keys in storage, and the two inputs a group consumes, rumors of
pairwise sessions and outer events. A group owns the storage below its own prefix; the model
keeps that part as one folder for each sender device.
-/

namespace NostrDoubleRatchet.TypeScript

structure SenderKeyRepairSnapshot where
  keyId : Nat
  distribution : SenderKeyDistribution
  recipients : List String
  pendingRecipients : Option (List String)
  deriving DecidableEq

/-- What storage holds under `groupSenderPrefix(device)`. -/
structure SenderFolder (K : Type) where
  senderEventSecretKey : Option String
  senderEventPubkey : Option String
  senderOwnerPubkey : Option String
  latestKeyId : Option Nat
  keys : SortedMap Nat (SenderKeyState K)
  repairSnapshots : List SenderKeyRepairSnapshot

def SenderFolder.empty {K : Type} : SenderFolder K :=
  ⟨none, none, none, none, SortedMap.empty, []⟩

/-- The folders of one group, by sender device. -/
abbrev GroupStore (K : Type) := SortedMap String (SenderFolder K)

namespace GroupStore

variable {K : Type}

def folder (store : GroupStore K) (device : String) : SenderFolder K :=
  (store.get? device).getD SenderFolder.empty

def put (store : GroupStore K) (device : String) (change : SenderFolder K → SenderFolder K) :
    GroupStore K :=
  store.insert device (change (store.folder device))

theorem folder_put (store : GroupStore K) (device other : String)
    (change : SenderFolder K → SenderFolder K) :
    (store.put device change).folder other =
      if device = other then change (store.folder device) else store.folder other := by
  rw [folder, put, SortedMap.get?_insert]
  by_cases h : device = other
  · rw [if_pos h, if_pos h]
    rfl
  · rw [if_neg h, if_neg h]
    rfl

end GroupStore

structure GroupDecryptedEvent where
  groupId : String
  senderEventPubkey : String
  senderDevicePubkey : String
  senderOwnerPubkey : Option String
  origin : MessageOrigin
  isSelf : Bool
  isCrossDeviceSelf : Bool
  outerEventId : String
  outerCreatedAt : Nat
  keyId : Nat
  messageNumber : Nat
  inner : JsonValue ⊕ Rumor

/-- An outer event that waits for its sender mapping or its sender key. A hidden-counter
event waits under no key id. -/
structure PendingOuter where
  senderEventPubkey : String
  keyId : Option Nat
  outer : VerifiedEvent
  deriving DecidableEq

structure Group where
  data : GroupData
  ourOwnerPubkey : String
  ourDevicePubkey : String
  memberOwnerPubkeys : List String
  initialized : Bool
  senderDeviceToEvent : SortedMap String String
  senderEventToDevice : SortedMap String String
  senderDeviceToOwner : SortedMap String String
  pendingOuter : List PendingOuter

namespace Group

def new (data : GroupData) (ourOwnerPubkey ourDevicePubkey : String) : Group where
  data := data
  ourOwnerPubkey := ourOwnerPubkey
  ourDevicePubkey := ourDevicePubkey
  memberOwnerPubkeys := data.members
  initialized := false
  senderDeviceToEvent := SortedMap.empty
  senderEventToDevice := SortedMap.empty
  senderDeviceToOwner := SortedMap.empty
  pendingOuter := []

def setData (group : Group) (data : GroupData) : Group :=
  { group with data := data, memberOwnerPubkeys := data.members }

def setSenderEventMapping (group : Group) (device event : String) : Group :=
  let senderEventToDevice :=
    match group.senderDeviceToEvent.get? device with
    | some prev => if prev ≠ event then group.senderEventToDevice.erase prev
        else group.senderEventToDevice
    | none => group.senderEventToDevice
  { group with
    senderDeviceToEvent := group.senderDeviceToEvent.insert device event
    senderEventToDevice := senderEventToDevice.insert event device }

def isMemberOwnerPubkey (group : Group) (owner : String) : Bool :=
  group.memberOwnerPubkeys.contains owner

def isSenderDeviceActive (group : Group) (device : String) : Bool :=
  if device = group.ourDevicePubkey then group.isMemberOwnerPubkey group.ourOwnerPubkey
  else (group.senderDeviceToOwner.get? device).any group.isMemberOwnerPubkey

def queuePending (group : Group) (event : String) (keyId : Option Nat) (outer : VerifiedEvent) :
    Group :=
  { group with pendingOuter := group.pendingOuter ++ [⟨event, keyId, outer⟩] }

end Group

/-- A group together with its part of the storage. -/
structure OpenGroup (K : Type) where
  group : Group
  store : GroupStore K

/-- How far `handleOuterEvent` gets with the sender keys of a device. -/
inductive Opening (K T : Type) where
  | queued (keyId : Option Nat)
  | dropped
  | opened (plaintext : T) (keyId messageNumber : Nat) (nextState : SenderKeyState K)

namespace OpenGroup

variable {K T : Type}

/-- The two mappings of one folder, as `init` reads them back. -/
def loadSender (group : Group) (device : String) (folder : SenderFolder K) : Group :=
  if !isHex64 device then group
  else
    let group :=
      match folder.senderEventPubkey with
      | some event => if isHex64 event then group.setSenderEventMapping device event else group
      | none => group
    match folder.senderOwnerPubkey with
    | some owner =>
        { group with senderDeviceToOwner := group.senderDeviceToOwner.insert device owner }
    | none => group

def init (self : OpenGroup K) : OpenGroup K :=
  if self.group.initialized then self
  else { self with
    group := self.store.entries.foldl (fun group entry => loadSender group entry.1 entry.2)
      { self.group with initialized := true } }

def removeSenderDeviceState (self : OpenGroup K) (device : String) : OpenGroup K :=
  let group := self.group
  let gone := fun (event : String) =>
    group.senderDeviceToEvent.get? device = some event ∨
      group.senderEventToDevice.get? event = some device
  { group := { group with
      senderDeviceToEvent := group.senderDeviceToEvent.erase device
      senderEventToDevice := group.senderEventToDevice.filter (fun event _ => ¬ gone event)
      senderDeviceToOwner := group.senderDeviceToOwner.erase device
      pendingOuter := group.pendingOuter.filter (fun p => ¬ gone p.senderEventPubkey) }
    store := self.store.erase device }

def purgeInactiveSenders (self : OpenGroup K) : OpenGroup K :=
  let candidates := (self.group.senderDeviceToEvent.keys ++ self.group.senderDeviceToOwner.keys ++
    self.group.senderEventToDevice.values).dedup
  candidates.foldl (fun self device =>
    if self.group.isSenderDeviceActive device then self
    else self.removeSenderDeviceState device) self

def saveSenderKeyState (self : OpenGroup K) (device : String) (state : SenderKeyState K) :
    OpenGroup K :=
  { self with store := self.store.put device (fun folder =>
      { folder with keys := folder.keys.insert state.keyId state }) }

/-- `listSenderEventPubkeys`, with the state it leaves. -/
def listSenderEventPubkeys (self : OpenGroup K) : List String × OpenGroup K :=
  let self := self.init.purgeInactiveSenders
  (self.group.senderDeviceToEvent.values.dedup, self)

section Receiving

variable [Primitives K T] [GroupCodec K T]

/-- The branch of `handleOuterEvent` that looks for a key, newest key id first. -/
def openOuter (keys : SortedMap Nat (SenderKeyState K)) (parsed : OneToManyMessage) :
    Opening K T :=
  let ciphertext : T := GroupCodec.payload K parsed.ciphertext
  if parsed.hidden then
    match keys.values.reverse.findSome? (fun state =>
      match SenderKeyState.decryptBlindFromBytes state ciphertext with
      | .ok (number, plaintext, next) => some (plaintext, state.keyId, number, next)
      | .error _ => none) with
    | some (plaintext, keyId, number, next) => .opened plaintext keyId number next
    | none => .queued none
  else
    match keys.get? parsed.keyId with
    | none => .queued (some parsed.keyId)
    | some state =>
        match SenderKeyState.decryptFromBytes state parsed.messageNumber ciphertext with
        | .ok (plaintext, next) => .opened plaintext parsed.keyId parsed.messageNumber next
        | .error _ => .dropped

/-- The rumor inside a plaintext. A text that is no JSON is wrapped as a chat message. -/
def readInner (groupId device : String) (createdAt : Nat) (plaintext : String) :
    JsonValue ⊕ Rumor :=
  match GroupCodec.jsonParse K T plaintext with
  | some value => .inl value
  | none =>
      let inner : Rumor := {
        id := "", pubkey := device, kind := CHAT_MESSAGE_KIND, createdAt := createdAt
        tags := [["l", groupId]], content := plaintext }
      .inr { inner with id := GroupCodec.getEventHash K T inner }

/-- Whether the rumor names another group; the reading throws on some parsed values. -/
def namesOtherGroup (groupId : String) : JsonValue ⊕ Rumor → Except String Bool
  | .inl value => do pure (JsonValue.differsFrom (← value.firstTagValue "l") groupId)
  | .inr inner => .ok ((truthy (getFirstTagValue inner.tags "l")).any (· ≠ groupId))

def decryptedEvent (self : OpenGroup K) (outer : VerifiedEvent) (device : String)
    (keyId messageNumber : Nat) (inner : JsonValue ⊕ Rumor) : GroupDecryptedEvent :=
  let owner := (truthy (self.group.senderDeviceToOwner.get? device)).or
    (truthy (self.store.folder device).senderOwnerPubkey)
  let origin := classifyMessageOrigin self.group.ourOwnerPubkey self.group.ourDevicePubkey owner device
  { groupId := self.group.data.id
    senderEventPubkey := outer.pubkey
    senderDevicePubkey := device
    senderOwnerPubkey := owner
    origin := origin
    isSelf := isSelfOrigin origin
    isCrossDeviceSelf := isCrossDeviceSelfOrigin origin
    outerEventId := outer.id
    outerCreatedAt := outer.createdAt
    keyId := keyId
    messageNumber := messageNumber
    inner := inner }

/-- `handleOuterEvent` once the sender device is known and active. -/
def handleSenderOuter (self : OpenGroup K) (outer : VerifiedEvent) (parsed : OneToManyMessage)
    (device : String) : Except String (Option GroupDecryptedEvent) × OpenGroup K :=
  match openOuter (T := T) (self.store.folder device).keys parsed with
  | .queued keyId =>
      (.ok none, { self with group := self.group.queuePending outer.pubkey keyId outer })
  | .dropped => (.ok none, self)
  | .opened plaintext keyId messageNumber nextState =>
      let inner := readInner (K := K) (T := T) self.group.data.id device outer.createdAt
        (GroupCodec.text K plaintext)
      match namesOtherGroup self.group.data.id inner with
      | .error e => (.error e, self)
      | .ok true => (.ok none, self)
      | .ok false =>
          let self := self.saveSenderKeyState device nextState
          (.ok (some (self.decryptedEvent outer device keyId messageNumber inner)), self)

def handleOuterEvent (self : OpenGroup K) (outer : VerifiedEvent) :
    Except String (Option GroupDecryptedEvent) × OpenGroup K :=
  let self := self.init.purgeInactiveSenders
  if outer.kind ≠ MESSAGE_EVENT_KIND then (.ok none, self)
  else if !GroupCodec.verifyEvent K T outer then (.ok none, self)
  else
    match parseOuterEvent K T outer with
    | .error _ => (.ok none, self)
    | .ok parsed =>
        match self.group.senderEventToDevice.get? outer.pubkey with
        | none =>
            let keyId := if parsed.hidden then none else some parsed.keyId
            (.ok none, { self with group := self.group.queuePending outer.pubkey keyId outer })
        | some device =>
            -- The local sending chain has already advanced past its own relay echoes.
            if device = self.group.ourDevicePubkey ∧
                (truthy (self.store.folder device).senderEventSecretKey).isSome then
              (.ok none, self)
            else if !self.group.isSenderDeviceActive device then
              (.ok none, self.removeSenderDeviceState device)
            else self.handleSenderOuter (T := T) outer parsed device

/-- Hand over queued events one after the other; an error ends the loop. -/
def handleOuterEvents :
    List VerifiedEvent → OpenGroup K → Except String (List GroupDecryptedEvent) × OpenGroup K
  | [], self => (.ok [], self)
  | outer :: rest, self =>
      match self.handleOuterEvent (T := T) outer with
      | (.error e, self) => (.error e, self)
      | (.ok decrypted, self) =>
          match handleOuterEvents rest self with
          | (.error e, self) => (.error e, self)
          | (.ok events, self) => (.ok (decrypted.toList ++ events), self)

/-- The stable sort of queued events by message number; one that does not parse counts as 0. -/
def sortByMessageNumber (pending : List VerifiedEvent) : List VerifiedEvent :=
  let number := fun outer =>
    match parseOuterEvent K T outer with
    | .ok parsed => parsed.messageNumber
    | .error _ => 0
  pending.mergeSort (fun a b => number a ≤ number b)

def drainPending (self : OpenGroup K) (event : String) (keyId : Nat) :
    Except String (List GroupDecryptedEvent) × OpenGroup K :=
  let waits := fun (key : Option Nat) (p : PendingOuter) =>
    p.senderEventPubkey = event ∧ p.keyId = key
  let pending := (self.group.pendingOuter.filter (waits (some (keyId % 2 ^ 32)))) ++
    self.group.pendingOuter.filter (waits none)
  if pending = [] then (.ok [], self)
  else
    let self := { self with group := { self.group with
      pendingOuter := self.group.pendingOuter.filter
        (fun p => ¬ (waits (some (keyId % 2 ^ 32)) p ∨ waits none p)) } }
    handleOuterEvents (T := T) (sortByMessageNumber (K := K) (T := T)
      (pending.map (·.outer))) self

/-- The synthetic event that shows a repair request to the application. -/
def repairRequestEvent (self : OpenGroup K) (event : Rumor) (fromOwner device : String)
    (request : SenderKeyRepairRequest) : GroupDecryptedEvent :=
  let origin := classifyMessageOrigin self.group.ourOwnerPubkey self.group.ourDevicePubkey
    (some fromOwner) device
  { groupId := self.group.data.id
    senderEventPubkey := device
    senderDevicePubkey := device
    senderOwnerPubkey := some fromOwner
    origin := origin
    isSelf := isSelfOrigin origin
    isCrossDeviceSelf := isCrossDeviceSelfOrigin origin
    outerEventId := event.id
    outerCreatedAt := event.createdAt
    keyId := request.keyId.getD 0
    messageNumber := request.messageNumber.getD 0
    inner := .inr event }

/-- The device a control rumor speaks for: the authenticated one, which the rumor's own
author may not contradict. -/
def controlSender (event : Rumor) (fromDevice : Option String) : Option String :=
  match truthy fromDevice with
  | none => none
  | some device =>
      if !isHex64 device then none
      else if isHex64 event.pubkey && event.pubkey ≠ device then none
      else some device

/-- Learn the sender-event key that a distribution announces for its device. -/
def learnSenderEvent (self : OpenGroup K) (device event : String) : OpenGroup K where
  group := self.group.setSenderEventMapping device event
  store := self.store.put device (fun folder => { folder with senderEventPubkey := some event })

def learnSenderOwner (self : OpenGroup K) (device owner : String) : OpenGroup K where
  group := { self.group with
    senderDeviceToOwner := self.group.senderDeviceToOwner.insert device owner }
  store := self.store.put device (fun folder => { folder with senderOwnerPubkey := some owner })

/-- The two mappings a distribution teaches about its device. -/
def learnSender (self : OpenGroup K) (device owner : String) (event : Option String) :
    OpenGroup K :=
  match event with
  | some event => (self.learnSenderOwner device owner).learnSenderEvent device event
  | none => self.learnSenderOwner device owner

/-- Store the sender key of a distribution unless its key id is already there. -/
def storeDistributedKey (self : OpenGroup K) (dist : SenderKeyDistribution) (device : String) :
    Except String (OpenGroup K) :=
  match (self.store.folder device).keys.get? (dist.keyId % 2 ^ 32) with
  | some _ => .ok self
  | none =>
      match SenderKeyState.fromDistribution (T := T) dist with
      | .error e => .error e
      | .ok state => .ok (self.saveSenderKeyState device state)

/-- The part of `handleIncomingSessionEvent` that consumes a distribution. -/
def handleDistribution (self : OpenGroup K) (dist : SenderKeyDistribution)
    (fromOwner device : String) :
    Except String (List GroupDecryptedEvent) × OpenGroup K :=
  let event := dist.senderEventPubkey.filter isHex64
  let self := self.learnSender device fromOwner event
  match self.storeDistributedKey (T := T) dist device, event with
  | .error e, _ => (.error e, self)
  | .ok self, some event => self.drainPending (T := T) event dist.keyId
  | .ok self, none => (.ok [], self)

def handleIncomingSessionEvent (self : OpenGroup K) (event : Rumor) (fromOwner : String)
    (fromDevice : Option String) : Except String (List GroupDecryptedEvent) × OpenGroup K :=
  let self := self.init
  if !self.group.memberOwnerPubkeys.contains fromOwner then (.ok [], self)
  else if getFirstTagValue event.tags "l" ≠ some self.group.data.id then (.ok [], self)
  else if event.kind = GROUP_SENDER_KEY_REPAIR_REQUEST_KIND then
    match parseSenderKeyRepairRequestRumor K T event with
    | .error e => (.error e, self)
    | .ok none => (.ok [], self)
    | .ok (some request) =>
        if request.groupId ≠ self.group.data.id then (.ok [], self)
        else
          match controlSender event fromDevice with
          | none => (.ok [], self)
          | some device => (.ok [self.repairRequestEvent event fromOwner device request], self)
  else if event.kind ≠ GROUP_SENDER_KEY_DISTRIBUTION_KIND then (.ok [], self)
  else
    match parseSenderKeyDistribution K T event.content with
    | none => (.ok [], self)
    | some dist =>
        if dist.groupId ≠ self.group.data.id then (.ok [], self)
        else
          match controlSender event fromDevice with
          | none => (.ok [], self)
          | some device => self.handleDistribution (T := T) dist fromOwner device

end Receiving

end OpenGroup

end NostrDoubleRatchet.TypeScript
