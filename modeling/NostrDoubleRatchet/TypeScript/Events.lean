import Mathlib.Data.String.Basic
import NostrDoubleRatchet.AppKeys

/-!
What the TypeScript modules share: signed events, rumors, the values `JSON.parse` can return,
and the classification of a message by who sent it. Public keys, ids and signatures are the
hex texts the library passes around.
-/

namespace NostrDoubleRatchet.TypeScript

structure VerifiedEvent where
  id : String
  sig : String
  pubkey : String
  kind : Nat
  createdAt : Nat
  tags : List (List String)
  content : String
  deriving DecidableEq

structure Rumor where
  id : String
  pubkey : String
  kind : Nat
  createdAt : Nat
  tags : List (List String)
  content : String
  deriving DecidableEq

/-- `/^[a-f0-9]{64}$/i`. -/
def isHex64 (text : String) : Bool :=
  text.toList.length = 64 && text.toList.all isAsciiHexDigit

def getFirstTagValue (tags : List (List String)) (key : String) : Option String :=
  (tags.find? (fun tag => tag.head? = some key)).bind (·[1]?)

def hasMetadataPrivacyVersion (event : VerifiedEvent) : Bool :=
  match event.tags.filter (fun tag => tag.head? = some "v") with
  | [tag] => tag = ["v", "2"]
  | _ => false

def CHAT_MESSAGE_KIND : Nat := 14

def MESSAGE_EVENT_KIND : Nat := 1060

/-- The white space `String.prototype.trim` removes. -/
def isJsWhitespace (c : Char) : Bool :=
  let n := c.toNat
  (9 ≤ n && n ≤ 13) || n = 0x20 || n = 0xa0 || n = 0x1680 || (0x2000 ≤ n && n ≤ 0x200a) ||
    n = 0x2028 || n = 0x2029 || n = 0x202f || n = 0x205f || n = 0x3000 || n = 0xfeff

def jsTrim (text : String) : String :=
  String.ofList
    ((text.toList.dropWhile isJsWhitespace).reverse.dropWhile isJsWhitespace).reverse

/-- A text that JavaScript counts as true: present and not empty. -/
def truthy (text : Option String) : Option String := text.filter (· ≠ "")

theorem truthy_of_ne {text : Option String} (h : text ≠ some "") : truthy text = text := by
  cases text with
  | none => rfl
  | some value =>
      have hne : value ≠ "" := by
        intro heq
        exact h (by rw [heq])
      simp [truthy, hne]

/-- The largest safe integer, `2^53 - 1`. -/
def maxSafeInteger : Nat := 2 ^ 53 - 1

/-- What `JSON.parse` returns. A number that is not an integer is `number none`. -/
inductive JsonValue where
  | null
  | boolean (value : Bool)
  | number (value : Option Int)
  | string (value : String)
  | array (items : List JsonValue)
  | object (fields : List (String × JsonValue))

namespace JsonValue

def typeError : String := "TypeError"

def field (value : JsonValue) (name : String) : Except String (Option JsonValue) :=
  match value with
  | .null => .error typeError
  | .object fields => .ok ((fields.find? (·.1 = name)).map (·.2))
  | _ => .ok none

def isString : Option JsonValue → Option String
  | some (.string text) => some text
  | _ => none

/-- A non-negative integer of the value, if it is one. -/
def isNatural : Option JsonValue → Option Nat
  | some (.number (some n)) => if 0 ≤ n then some n.toNat else none
  | _ => none

/-- `tag[index]` where `tag` is any value. -/
def element (value : JsonValue) (index : Nat) : Except String (Option JsonValue) :=
  match value with
  | .null => .error typeError
  | .array items => .ok items[index]?
  | .string text => .ok (text.toList[index]?.map (fun c => .string (String.ofList [c])))
  | .object fields => .ok ((fields.find? (·.1 = toString index)).map (·.2))
  | _ => .ok none

/-- The `find` of `getFirstTagValue` over tags that nobody has checked. -/
def findTag (key : String) : List JsonValue → Except String (Option JsonValue)
  | [] => .ok none
  | tag :: rest => do
      match ← tag.element 0 with
      | some (.string text) => if text = key then tag.element 1 else findTag key rest
      | _ => findTag key rest

/-- `getFirstTagValue(inner.tags, key)` on a parsed value. -/
def firstTagValue (value : JsonValue) (key : String) : Except String (Option JsonValue) := do
  match ← value.field "tags" with
  | none => .ok none
  | some .null => .ok none
  | some (.array tags) => findTag key tags
  | some _ => .error typeError

/-- `value && value !== text`. -/
def differsFrom (value : Option JsonValue) (text : String) : Bool :=
  match value with
  | none => false
  | some .null => false
  | some (.boolean b) => b
  | some (.number n) => n ≠ some 0
  | some (.string s) => s ≠ "" && s ≠ text
  | some (.array _) => true
  | some (.object _) => true

end JsonValue

inductive MessageOrigin where
  | localDevice
  | sameOwnerOtherDevice
  | remoteOwner
  | unknown
  deriving DecidableEq

def classifyMessageOrigin (ourOwnerPubkey ourDevicePubkey : String)
    (senderOwnerPubkey : Option String) (senderDevicePubkey : String) : MessageOrigin :=
  match truthy senderOwnerPubkey with
  | some owner =>
      if owner ≠ ourOwnerPubkey then .remoteOwner
      else if ourDevicePubkey = "" ∨ senderDevicePubkey = "" then .unknown
      else if senderDevicePubkey = ourDevicePubkey then .localDevice
      else .sameOwnerOtherDevice
  | none =>
      if ourDevicePubkey = "" ∨ senderDevicePubkey = "" then .unknown
      else if senderDevicePubkey = ourDevicePubkey then .localDevice
      else .unknown

def isSelfOrigin (origin : MessageOrigin) : Bool :=
  origin = .localDevice || origin = .sameOwnerOtherDevice

def isCrossDeviceSelfOrigin (origin : MessageOrigin) : Bool :=
  origin = .sameOwnerOtherDevice

end NostrDoubleRatchet.TypeScript
