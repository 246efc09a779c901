import NostrDoubleRatchet.TypeScript.Group

/-!
The group manager of `GroupManager.ts` and `group-manager/`: which group an outer event is
routed to, what waits for a group or a sender, and how rumors of pairwise sessions create and
change groups. Operations run one after the other through `enqueueOperation`.
-/

namespace NostrDoubleRatchet.TypeScript

structure PendingSessionEvent where
  event : Rumor
  fromOwnerPubkey : String
  fromSenderDevicePubkey : Option String
  deriving DecidableEq

def maxPendingPerSenderEvent : Nat := 128

def maxSeenOuterEventIds : Nat := 4096

/-- The set of seen outer event ids is the list of them in their order. -/
structure GroupManager (K : Type) where
  ourOwnerPubkey : String
  ourDevicePubkey : String
  suppressLocalDeviceEcho : Bool
  storage : SortedMap String (GroupStore K)
  groups : SortedMap String Group
  senderEventToGroup : SortedMap String String
  groupToSenderEvents : SortedMap String (SortedSet String)
  pendingOuterBySenderEvent : SortedMap String (List VerifiedEvent)
  pendingSessionByGroup : SortedMap String (List PendingSessionEvent)
  seenOuterEventOrder : List String

namespace GroupManager

variable {K T : Type}

def new (ourOwnerPubkey ourDevicePubkey : String) (suppressLocalDeviceEcho : Bool)
    (storage : SortedMap String (GroupStore K)) : GroupManager K where
  ourOwnerPubkey := ourOwnerPubkey
  ourDevicePubkey := ourDevicePubkey
  suppressLocalDeviceEcho := suppressLocalDeviceEcho
  storage := storage
  groups := SortedMap.empty
  senderEventToGroup := SortedMap.empty
  groupToSenderEvents := SortedMap.empty
  pendingOuterBySenderEvent := SortedMap.empty
  pendingSessionByGroup := SortedMap.empty
  seenOuterEventOrder := []

def getGroup (manager : GroupManager K) (groupId : String) : Option GroupData :=
  (manager.groups.get? groupId).map (·.data)

def setGroup (manager : GroupManager K) (groupId : String) (group : Group) : GroupManager K :=
  { manager with groups := manager.groups.insert groupId group }

/-- The group's object with its part of the storage. -/
def openGroup (manager : GroupManager K) (groupId : String) (group : Group) : OpenGroup K :=
  ⟨group, (manager.storage.get? groupId).getD SortedMap.empty⟩

/-- Write back what an operation of the group has changed. -/
def closeGroup (manager : GroupManager K) (groupId : String) (opened : OpenGroup K) :
    GroupManager K :=
  { manager with
    groups := manager.groups.insert groupId opened.group
    storage := manager.storage.insert groupId opened.store }

def bindSenderEventToGroup (manager : GroupManager K) (groupId event : String) :
    GroupManager K :=
  { manager with
    senderEventToGroup := manager.senderEventToGroup.insert event groupId
    groupToSenderEvents := manager.groupToSenderEvents.insert groupId
      (((manager.groupToSenderEvents.get? groupId).getD SortedSet.empty).insert event) }

/-- Forget an event key of `prev` that the group no longer lists. -/
def dropSenderEvent (groupId : String) (manager : GroupManager K) (event : String) :
    GroupManager K :=
  { manager with
    senderEventToGroup :=
      if manager.senderEventToGroup.get? event = some groupId then
        manager.senderEventToGroup.erase event
      else manager.senderEventToGroup
    pendingOuterBySenderEvent := manager.pendingOuterBySenderEvent.erase event }

def refreshGroupSenderMappings (manager : GroupManager K) (groupId : String) : GroupManager K :=
  match manager.groups.get? groupId with
  | none => manager
  | some group =>
      let (next, opened) := (manager.openGroup groupId group).listSenderEventPubkeys
      let manager := manager.closeGroup groupId opened
      let prev := ((manager.groupToSenderEvents.get? groupId).getD SortedSet.empty).toList
      let manager := (prev.filter (fun event => !next.contains event)).foldl
        (dropSenderEvent groupId) manager
      { manager with
        senderEventToGroup := next.foldl (fun map event => map.insert event groupId)
          manager.senderEventToGroup
        groupToSenderEvents := manager.groupToSenderEvents.insert groupId (SortedSet.ofList next) }

def removeGroup (manager : GroupManager K) (groupId : String) : GroupManager K :=
  let senderEvents := ((manager.groupToSenderEvents.get? groupId).getD SortedSet.empty).toList
  let manager := senderEvents.foldl (dropSenderEvent groupId) { manager with
    groups := manager.groups.erase groupId
    pendingSessionByGroup := manager.pendingSessionByGroup.erase groupId }
  { manager with groupToSenderEvents := manager.groupToSenderEvents.erase groupId }

def queuePendingSessionEvent (manager : GroupManager K) (groupId : String)
    (pending : PendingSessionEvent) : GroupManager K :=
  { manager with
    pendingSessionByGroup := manager.pendingSessionByGroup.insert groupId
      ((manager.pendingSessionByGroup.get? groupId).getD [] ++ [pending]) }

def queuePendingOuter (manager : GroupManager K) (event : String) (outer : VerifiedEvent) :
    GroupManager K :=
  let pending := (manager.pendingOuterBySenderEvent.get? event).getD []
  let pending := if pending.length ≥ maxPendingPerSenderEvent then pending.tail else pending
  { manager with
    pendingOuterBySenderEvent :=
      manager.pendingOuterBySenderEvent.insert event (pending ++ [outer]) }

def hasSeenOuterEvent (manager : GroupManager K) (eventId : String) : Bool :=
  manager.seenOuterEventOrder.contains eventId

def rememberOuterEvent (manager : GroupManager K) (eventId : String) : GroupManager K :=
  if manager.seenOuterEventOrder.contains eventId then manager
  else
    let order := manager.seenOuterEventOrder ++ [eventId]
    { manager with seenOuterEventOrder := order.drop (order.length - maxSeenOuterEventIds) }

def shouldDropLocalEcho (manager : GroupManager K) (event : GroupDecryptedEvent) : Bool :=
  manager.suppressLocalDeviceEcho && event.origin = .localDevice

def routeIncomingEvents (manager : GroupManager K) (events : List GroupDecryptedEvent) :
    List GroupDecryptedEvent :=
  if !manager.suppressLocalDeviceEcho then events
  else events.filter (fun event => !manager.shouldDropLocalEcho event)

/-- The synthetic event that shows a roster fact to the application. -/
def buildMetadataEvent (manager : GroupManager K) (groupId : String) (event : Rumor)
    (fromOwner : String) (fromDevice : Option String) : GroupDecryptedEvent :=
  let device := (truthy fromDevice).getD event.pubkey
  let origin := classifyMessageOrigin manager.ourOwnerPubkey manager.ourDevicePubkey
    (some fromOwner) device
  { groupId := groupId
    senderEventPubkey := device
    senderDevicePubkey := device
    senderOwnerPubkey := some fromOwner
    origin := origin
    isSelf := isSelfOrigin origin
    isCrossDeviceSelf := isCrossDeviceSelfOrigin origin
    outerEventId := event.id
    outerCreatedAt := event.createdAt
    keyId := 0
    messageNumber := 0
    inner := .inr event }

section Receiving

variable [Primitives K T] [GroupCodec K T]

/-- `drainPendingOuterForSenderEvent` for a group of the manager. -/
def drainPendingOuterForSenderEvent (manager : GroupManager K) (event groupId : String)
    (group : Group) : Except String (List GroupDecryptedEvent) × GroupManager K :=
  match (manager.pendingOuterBySenderEvent.get? event).getD [] with
  | [] => (.ok [], manager)
  | pending =>
      let manager := { manager with
        pendingOuterBySenderEvent := manager.pendingOuterBySenderEvent.erase event }
      let (result, opened) := OpenGroup.handleOuterEvents (T := T)
        (OpenGroup.sortByMessageNumber (K := K) (T := T) pending) (manager.openGroup groupId group)
      (result, manager.closeGroup groupId opened)

/-- The routing of a distribution's sender-event key, whoever sent it and whatever the
group made of it. -/
def routeDistribution (manager : GroupManager K) (groupId : String)
    (distribution : Option SenderKeyDistribution) :
    Except String (List GroupDecryptedEvent) × GroupManager K :=
  match (distribution.bind (·.senderEventPubkey)).filter isHex64, manager.groups.get? groupId with
  | some event, some group =>
      (manager.bindSenderEventToGroup groupId event).drainPendingOuterForSenderEvent (T := T)
        event groupId group
  | _, _ => (.ok [], manager)

def handleIncomingSessionEventForKnownGroup (manager : GroupManager K) (groupId : String)
    (group : Group) (pending : PendingSessionEvent)
    (distribution : Option SenderKeyDistribution) :
    Except String (List GroupDecryptedEvent) × GroupManager K :=
  let (result, opened) := (manager.openGroup groupId group).handleIncomingSessionEvent (T := T)
    pending.event pending.fromOwnerPubkey pending.fromSenderDevicePubkey
  let manager := manager.closeGroup groupId opened
  match result with
  | .error e => (.error e, manager)
  | .ok drainedFromGroup =>
      match manager.routeDistribution (T := T) groupId distribution with
      | (.error e, manager) => (.error e, manager)
      | (.ok drainedFromManagerQueue, manager) =>
          (.ok (drainedFromGroup ++ drainedFromManagerQueue),
            manager.refreshGroupSenderMappings groupId)

def distributionOf (event : Rumor) : Option SenderKeyDistribution :=
  if event.kind = GROUP_SENDER_KEY_DISTRIBUTION_KIND then
    parseSenderKeyDistribution K T event.content
  else none

/-- The loop of `drainPendingSessionEvents`; the group stays known while it runs. -/
def drainSessionEvents (groupId : String) : List PendingSessionEvent → GroupManager K →
    Except String (List GroupDecryptedEvent) × GroupManager K
  | [], manager => (.ok [], manager)
  | queued :: rest, manager =>
      match manager.groups.get? groupId with
      | none => (.ok [], manager)
      | some group =>
          match manager.handleIncomingSessionEventForKnownGroup (T := T) groupId group queued
              (distributionOf (K := K) (T := T) queued.event) with
          | (.error e, manager) => (.error e, manager)
          | (.ok events, manager) =>
              match drainSessionEvents groupId rest manager with
              | (.error e, manager) => (.error e, manager)
              | (.ok later, manager) => (.ok (events ++ later), manager)

def drainPendingSessionEvents (manager : GroupManager K) (groupId : String) :
    Except String (List GroupDecryptedEvent) × GroupManager K :=
  match (manager.pendingSessionByGroup.get? groupId).getD [] with
  | [] => (.ok [], manager)
  | pending => drainSessionEvents (T := T) groupId pending { manager with
      pendingSessionByGroup := manager.pendingSessionByGroup.erase groupId }

/-- The group that a roster fact makes known. -/
def createdGroup (manager : GroupManager K) (parsed : GroupMetadata) (rosterFact : GroupRosterFact) :
    Group :=
  Group.new {
    id := parsed.id
    name := parsed.name
    description := truthy parsed.description
    picture := truthy parsed.picture
    members := parsed.members
    admins := parsed.admins
    createdAt := rosterFact.group.createdAt * 1000
    secret := none
    accepted := some false } manager.ourOwnerPubkey manager.ourDevicePubkey

/-- What follows once the record stands: new sender mappings, then what has waited. -/
def settleMetadata (manager : GroupManager K) (groupId : String) (synthetic : GroupDecryptedEvent) :
    Except String (List GroupDecryptedEvent) × GroupManager K :=
  match (manager.refreshGroupSenderMappings groupId).drainPendingSessionEvents (T := T) groupId with
  | (.error e, manager) => (.error e, manager)
  | (.ok drained, manager) => (.ok (synthetic :: drained), manager)

def handleIncomingMetadataEvent (manager : GroupManager K) (groupId : String)
    (pending : PendingSessionEvent) (parsed : GroupMetadata) (rosterFact : GroupRosterFact) :
    Except String (List GroupDecryptedEvent) × GroupManager K :=
  let synthetic := manager.buildMetadataEvent groupId pending.event pending.fromOwnerPubkey
    pending.fromSenderDevicePubkey
  match manager.groups.get? groupId with
  | some existing =>
      match validateMetadataUpdate existing.data parsed pending.fromOwnerPubkey
          manager.ourOwnerPubkey with
      | .reject => (.ok [], manager)
      | .removed => (.ok [synthetic], manager.removeGroup groupId)
      | .accept =>
          (manager.setGroup groupId
            (existing.setData (applyMetadataUpdate existing.data parsed))).settleMetadata (T := T)
              groupId synthetic
  | none =>
      if !validateMetadataCreation parsed pending.fromOwnerPubkey manager.ourOwnerPubkey then
        (.ok [], manager)
      else
        (manager.setGroup groupId (manager.createdGroup parsed rosterFact)).settleMetadata (T := T)
          groupId synthetic

/-- The group a rumor speaks of, with the roster fact or the distribution it carries. -/
structure SessionEventTarget where
  groupId : Option String
  distribution : Option SenderKeyDistribution
  rosterFact : Option GroupRosterFact

/-- The first part of `handleIncomingSessionEvent`. A roster fact that does not parse is
reported and ends the operation (`none`). -/
def sessionEventTarget (event : Rumor) : Except String (Option SessionEventTarget) :=
  let tagged := getFirstTagValue event.tags "l"
  if event.kind = GROUP_SENDER_KEY_DISTRIBUTION_KIND then
    let distribution := parseSenderKeyDistribution K T event.content
    .ok (some ⟨(truthy (distribution.map (·.groupId))).or tagged, distribution, none⟩)
  else if event.kind = GROUP_SENDER_KEY_REPAIR_REQUEST_KIND then do
    let request ← parseSenderKeyRepairRequestRumor K T event
    pure (some ⟨(truthy (request.map (·.groupId))).or tagged, none, none⟩)
  else if event.kind = GROUP_ROSTER_FACT_KIND ∧ isGroupRosterFactEvent event then
    match parseGroupRosterFactRumor event with
    | .error _ => .ok none
    | .ok fact => .ok (some ⟨some fact.groupId, none, some fact⟩)
  else .ok (some ⟨tagged, none, none⟩)

/-- An error inside the operation is reported and gives no events. -/
def reported (outcome : Except String (List GroupDecryptedEvent) × GroupManager K) :
    List GroupDecryptedEvent × GroupManager K :=
  match outcome with
  | (.ok handled, manager) => (manager.routeIncomingEvents handled, manager)
  | (.error _, manager) => ([], manager)

/-- The events returned are also those emitted. -/
def handleIncomingSessionEvent (manager : GroupManager K) (pending : PendingSessionEvent) :
    Except String (List GroupDecryptedEvent) × GroupManager K :=
  match sessionEventTarget (K := K) (T := T) pending.event with
  | .error e => (.error e, manager)
  | .ok none => (.ok [], manager)
  | .ok (some target) =>
      match truthy target.groupId, target.rosterFact with
      | none, _ => (.ok [], manager)
      | some groupId, some fact =>
          (reported (manager.handleIncomingMetadataEvent (T := T) groupId pending
            (groupMetadataFromRosterFact fact) fact)).map .ok id
      | some groupId, none =>
          match manager.groups.get? groupId with
          | none => (.ok [], manager.queuePendingSessionEvent groupId pending)
          | some group =>
              (reported (manager.handleIncomingSessionEventForKnownGroup (T := T) groupId group
                pending target.distribution)).map .ok id

def handleOuterEvent (manager : GroupManager K) (outer : VerifiedEvent) :
    Option GroupDecryptedEvent × GroupManager K :=
  if outer.kind ≠ MESSAGE_EVENT_KIND then (none, manager)
  -- Authenticate before either remembering the id or queueing the event.
  else if !GroupCodec.verifyEvent K T outer then (none, manager)
  else if manager.hasSeenOuterEvent outer.id then (none, manager)
  else
    let manager := manager.rememberOuterEvent outer.id
    match manager.senderEventToGroup.get? outer.pubkey with
    | none => (none, manager.queuePendingOuter outer.pubkey outer)
    | some groupId =>
        match manager.groups.get? groupId with
        | none => (none, manager.queuePendingOuter outer.pubkey outer)
        | some group =>
            match (manager.openGroup groupId group).handleOuterEvent (T := T) outer with
            | (.error _, opened) => (none, manager.closeGroup groupId opened)
            | (.ok decrypted, opened) =>
                let manager := manager.closeGroup groupId opened
                (decrypted.filter (fun event => !manager.shouldDropLocalEcho event), manager)

/-- `upsertGroup`, then what has waited for the group; the events are emitted. -/
def upsertGroup (manager : GroupManager K) (data : GroupData) :
    Except String (List GroupDecryptedEvent) × GroupManager K :=
  let group :=
    match manager.groups.get? data.id with
    | none => Group.new data manager.ourOwnerPubkey manager.ourDevicePubkey
    | some group => group.setData data
  ((manager.setGroup data.id group).refreshGroupSenderMappings
    data.id).drainPendingSessionEvents (T := T) data.id

end Receiving

end GroupManager

end NostrDoubleRatchet.TypeScript
