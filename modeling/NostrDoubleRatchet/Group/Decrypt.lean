import NostrDoubleRatchet.Group.Incoming
import NostrDoubleRatchet.SenderKey.Blind

/-!
Receiving sender-key messages, as in `group_manager/decrypt.rs` and the second half of
`group_manager/incoming.rs`. A receive is planned without touching the manager, if need be
over several calls that share a cursor, and then applied.
-/

namespace NostrDoubleRatchet

structure GroupSenderKeyMessage (K T : Type) where
  groupId : String
  senderEventPubkey : SenderEventPubkey K
  keyId : Nat
  messageNumber : Nat
  encryptedHeader : Option String
  createdAt : UnixSeconds
  ciphertext : T
  deriving DecidableEq

inductive GroupSenderKeyHandleResult (K T : Type) where
  | event (event : GroupIncomingEvent K T)
  | pendingDistribution (groupId : String) (senderEventPubkey : SenderEventPubkey K)
      (keyId messageNumber : Option Nat)
  | pendingRevision (groupId : String) (currentRevision requiredRevision keyId
      messageNumber : Nat)
  | ignored
  deriving DecidableEq

variable {K T : Type} [LinearOrder K]

/-- Progress of one hidden-position search over the keys known when it began. -/
structure GroupSenderKeyDecryptCursor (K T : Type) where
  message : GroupSenderKeyMessage K T
  identity : SenderKeyRecordId K
  keyIds : List Nat
  keyIndex : Nat
  active : Option (SenderKeyState K × BlindDecryptCursor K)

structure GroupSenderKeyMutation (K : Type) where
  identity : SenderKeyRecordId K
  author : SenderEventPubkey K
  expected : SenderKeyState K
  next : SenderKeyState K
  revision : Nat
  localMember : Bool

/-- A receive result that has not changed the ratchet yet. -/
structure GroupSenderKeyReceivePlan (K T : Type) where
  result : GroupSenderKeyHandleResult K T
  mutation : Option (GroupSenderKeyMutation K)

namespace GroupSenderKeyDecryptCursor

def start (message : GroupSenderKeyMessage K T) (identity : SenderKeyRecordId K)
    (record : SenderKeyRecord K) : GroupSenderKeyDecryptCursor K T :=
  ⟨message, identity, record.states.keys, 0, none⟩

omit [LinearOrder K] in
/-- The cursor on the next key. -/
def nextKey (cursor : GroupSenderKeyDecryptCursor K T) : GroupSenderKeyDecryptCursor K T :=
  { cursor with active := none, keyIndex := cursor.keyIndex + 1 }

/-- The keys the search has not finished with. -/
def keysLeft (cursor : GroupSenderKeyDecryptCursor K T) : List Nat :=
  cursor.keyIds.drop cursor.keyIndex

/-- The cursor belongs to another search. -/
def isForeign [DecidableEq T] (cursor : GroupSenderKeyDecryptCursor K T)
    (identity : SenderKeyRecordId K) (message : GroupSenderKeyMessage K T) : Bool :=
  cursor.identity ≠ identity || cursor.message ≠ message

/-- The state the active search began from is no longer the stored one. -/
def isObsolete (cursor : GroupSenderKeyDecryptCursor K T) (record : SenderKeyRecord K) : Bool :=
  cursor.active.any (fun active => record.states.get? active.1.keyId ≠ some active.1)

end GroupSenderKeyDecryptCursor

namespace GroupManager

variable [Primitives K T]

/-- The loop of `advance_blind_message`, over the keys left. -/
def searchKeys (states : SortedMap Nat (SenderKeyState K)) (ciphertext : T) :
    List Nat → GroupSenderKeyDecryptCursor K T → Nat →
    BlindDecryptStep K T × GroupSenderKeyDecryptCursor K T × Nat
  | [], cursor, remaining => (.exhausted, cursor, remaining)
  | key :: rest, cursor, remaining =>
      match states.get? key with
      | none => searchKeys states ciphertext rest cursor.nextKey remaining
      | some state =>
          if remaining = 0 then (.pending, cursor, 0)
          else
            let (initial, active) := cursor.active.getD (state, BlindDecryptCursor.new state)
            match active.advance ciphertext remaining with
            | (.error _, _, remaining) =>
                searchKeys states ciphertext rest cursor.nextKey remaining
            | (.ok .exhausted, _, remaining) =>
                searchKeys states ciphertext rest cursor.nextKey remaining
            | (.ok step, active, remaining) =>
                (step, { cursor with active := some (initial, active) }, remaining)

variable [DecidableEq T]

/-- `advance_blind_message`: the step or error, with the cursor and the budget left. -/
def advanceBlindMessage (manager : GroupManager K) (identity : SenderKeyRecordId K)
    (message : GroupSenderKeyMessage K T) (cursor : Option (GroupSenderKeyDecryptCursor K T))
    (remaining : Nat) :
    Except Error (BlindDecryptStep K T) × Option (GroupSenderKeyDecryptCursor K T) × Nat :=
  match manager.senderKeys.get? identity with
  | none => (.error (groupError "sender-key index points to missing state"), cursor, remaining)
  | some record =>
      let cursor := cursor.filter (fun cursor => !cursor.isForeign identity message)
      if cursor.any (fun cursor => cursor.isObsolete record) then (.ok .pending, none, remaining)
      else
        let cursor :=
          cursor.getD (GroupSenderKeyDecryptCursor.start message identity record)
        let (step, cursor, remaining) :=
          searchKeys record.states message.ciphertext cursor.keysLeft cursor remaining
        (.ok step, some cursor, remaining)

variable [GroupPayloadCodec K T]

omit [DecidableEq T] [Primitives K T] in
/-- What a decrypted message comes to at the group's revision. -/
def finishReceive (manager : GroupManager K) (id : SenderKeyRecordId K)
    (author : SenderEventPubkey K) (group : GroupRecord K)
    (expected : Except Error (SenderKeyState K)) (next : SenderKeyState K)
    (keyId messageNumber : Nat) (payload : T) :
    Except Error (GroupSenderKeyReceivePlan K T) := do
  match ← GroupPayloadCodec.decodeSenderKeyPlaintext (K := K)
      ⟨group.groupId, group.revision⟩ payload with
  | none => pure ⟨.ignored, none⟩
  | some plaintext =>
      if plaintext.groupId ≠ group.groupId then pure ⟨.ignored, none⟩
      else if plaintext.revision > group.revision then
        pure ⟨.pendingRevision group.groupId group.revision plaintext.revision keyId
          messageNumber, none⟩
      else if plaintext.revision < group.revision then pure ⟨.ignored, none⟩
      else do
        let expected ← expected
        pure ⟨.event (.message ⟨plaintext.groupId, id.senderOwner, some id.senderDevice,
            plaintext.body, plaintext.revision⟩),
          some ⟨id, author, expected, next, group.revision,
            group.members.contains manager.localOwnerPubkey⟩⟩

def planHidden (manager : GroupManager K) (id : SenderKeyRecordId K) (group : GroupRecord K)
    (message : GroupSenderKeyMessage K T) (cursor : Option (GroupSenderKeyDecryptCursor K T))
    (remaining : Nat) :
    Except Error (Option (GroupSenderKeyReceivePlan K T)) ×
      Option (GroupSenderKeyDecryptCursor K T) × Nat :=
  match manager.advanceBlindMessage id message cursor remaining with
  | (.error e, cursor, remaining) => (.error e, cursor, remaining)
  | (.ok .pending, cursor, remaining) => (.ok none, cursor, remaining)
  | (.ok .exhausted, cursor, remaining) =>
      (.ok (some ⟨.pendingDistribution message.groupId message.senderEventPubkey none none,
        none⟩), cursor, remaining)
  | (.ok (.complete plan), cursor, remaining) =>
      let expected := match (manager.senderKeys.get? id).bind
          (fun record => record.states.get? plan.keyId) with
        | none => .error (groupError "sender-key index points to missing state")
        | some state => .ok state
      (some <$> manager.finishReceive id message.senderEventPubkey group expected
        plan.nextState plan.keyId plan.messageNumber plan.plaintext, cursor, remaining)

omit [DecidableEq T] in
def planPositioned (manager : GroupManager K) (id : SenderKeyRecordId K)
    (group : GroupRecord K) (message : GroupSenderKeyMessage K T) :
    Except Error (Option (GroupSenderKeyReceivePlan K T)) :=
  match manager.senderKeys.get? id with
  | none => .error (groupError "sender-key index points to missing state")
  | some record =>
      match record.states.get? message.keyId with
      | none => .ok (some ⟨.pendingDistribution message.groupId message.senderEventPubkey
          (some message.keyId) (some message.messageNumber), none⟩)
      | some state => do
          let plan ← state.planDecrypt ⟨message.keyId, message.messageNumber, message.ciphertext⟩
          some <$> manager.finishReceive id message.senderEventPubkey group (.ok state)
            plan.nextState message.keyId message.messageNumber plan.plaintext

def planSenderKeyMessageStep (manager : GroupManager K) (message : GroupSenderKeyMessage K T)
    (cursor : Option (GroupSenderKeyDecryptCursor K T)) (remaining : Nat) :
    Except Error (Option (GroupSenderKeyReceivePlan K T)) ×
      Option (GroupSenderKeyDecryptCursor K T) × Nat :=
  let hidden := message.encryptedHeader.isSome
  match manager.senderEventIndex.get? message.senderEventPubkey with
  | none =>
      (.ok (some ⟨.pendingDistribution message.groupId message.senderEventPubkey
        (if hidden then none else some message.keyId)
        (if hidden then none else some message.messageNumber), none⟩), cursor, remaining)
  | some id =>
      -- relay echoes of the local chains cannot be decrypted
      if id.groupId ≠ message.groupId ∨ (manager.senderKeys.get? id).any (fun record =>
          record.senderEventSecretKey.isSome) = true then
        (.ok (some ⟨.ignored, none⟩), cursor, remaining)
      else
        match manager.groups.get? id.groupId with
        | none => (.error (groupError s!"unknown group `{id.groupId}`"), cursor, remaining)
        | some group =>
            if !group.protocol.isSenderKeyV1 || id.senderOwner ∉ group.members then
              (.ok (some ⟨.ignored, none⟩), cursor, remaining)
            else if hidden then manager.planHidden id group message cursor remaining
            else (manager.planPositioned id group message, cursor, remaining)

/-- A cursor is kept only while the search is unfinished. -/
def planSenderKeyMessageWithBudget (manager : GroupManager K)
    (message : GroupSenderKeyMessage K T)
    (cursor : Option (GroupSenderKeyDecryptCursor K T)) (remaining : Nat) :
    Except Error (Option (GroupSenderKeyReceivePlan K T)) ×
      Option (GroupSenderKeyDecryptCursor K T) × Nat :=
  match manager.planSenderKeyMessageStep message cursor remaining with
  | (.ok none, cursor, remaining) => (.ok none, cursor, remaining)
  | (result, _, remaining) => (result, none, remaining)

omit [DecidableEq T] [Primitives K T] [GroupPayloadCodec K T] in
/-- Commit a plan if the inputs it was made from are still current. -/
def applySenderKeyReceivePlan (manager : GroupManager K)
    (plan : GroupSenderKeyReceivePlan K T) :
    Except Error (GroupSenderKeyHandleResult K T × GroupManager K) :=
  match plan.mutation with
  | none => .ok (plan.result, manager)
  | some mutation =>
      match manager.groups.get? mutation.identity.groupId with
      | none => .error (groupError "group disappeared before sender-key apply")
      | some group =>
          match manager.senderKeys.get? mutation.identity with
          | none => .error (groupError "sender disappeared before sender-key apply")
          | some record =>
              if !group.protocol.isSenderKeyV1 || group.revision ≠ mutation.revision ||
                  group.members.contains manager.localOwnerPubkey ≠ mutation.localMember ||
                  manager.senderEventIndex.get? mutation.author ≠ some mutation.identity ||
                  record.senderEventPubkey ≠ mutation.author ||
                  mutation.identity.senderOwner ∉ group.members ||
                  record.senderEventSecretKey.isSome ||
                  record.states.get? mutation.expected.keyId ≠ some mutation.expected then
                .error (groupError "sender-key decryption inputs changed before apply")
              else .ok (plan.result, manager.setSenderKey mutation.identity { record with
                states := record.states.insert mutation.next.keyId mutation.next })

def handleSenderKeyMessageWithBudget (manager : GroupManager K)
    (message : GroupSenderKeyMessage K T)
    (cursor : Option (GroupSenderKeyDecryptCursor K T)) (remaining : Nat) :
    Except Error (Option (GroupSenderKeyHandleResult K T) × GroupManager K) ×
      Option (GroupSenderKeyDecryptCursor K T) × Nat :=
  match manager.planSenderKeyMessageWithBudget message cursor remaining with
  | (.error e, cursor, remaining) => (.error e, cursor, remaining)
  | (.ok none, cursor, remaining) => (.ok (none, manager), cursor, remaining)
  | (.ok (some plan), cursor, remaining) =>
      ((manager.applySenderKeyReceivePlan plan).map (fun (result, next) =>
        (some result, next)), cursor, remaining)

/-- `usize::MAX`. -/
def usizeMax : Nat := 2 ^ 64 - 1

def handleSenderKeyMessage (manager : GroupManager K) (message : GroupSenderKeyMessage K T) :
    Except Error (GroupSenderKeyHandleResult K T × GroupManager K) :=
  match (manager.handleSenderKeyMessageWithBudget message none usizeMax).1 with
  | .error e => .error e
  | .ok (none, _) => .error (groupError "unlimited sender-key search did not finish")
  | .ok (some result, next) => .ok (result, next)

end GroupManager

end NostrDoubleRatchet
