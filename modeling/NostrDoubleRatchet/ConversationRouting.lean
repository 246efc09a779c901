import NostrDoubleRatchet.Text
import NostrDoubleRatchet.TypeScript.GroupMeta

/-!
Which conversation a rumor belongs to, as in `multi_device.rs` and `multiDevice.ts`. Lower case is
that of Unicode, the same in both languages; white space is not, so each client trims with its own.
The clients agree where texts trim alike, but for a `p` tag without a value: Rust looks for the
first `p` tag that has one, TypeScript takes the first `p` tag as it is.
-/

namespace NostrDoubleRatchet

/-! `multi_device.rs`. -/

namespace MultiDevice

section

variable (toLowercase : String → String)

def normalizePubkeyHex (value : String) : Option String :=
  let normalized := toLowercase (trim value)
  if normalized = "" then none else some normalized

def firstTagValue (tags : List (List String)) (name : String) : Option String :=
  (tags.find? (fun tag => tag.head? = some name && decide (2 ≤ tag.length))).bind
    (fun tag => tag[1]?.bind (normalizePubkeyHex toLowercase))

def resolveRumorPeerPubkey (ownerPubkeyHex rumorPubkeyHex : String)
    (rumorTags : List (List String)) (senderPubkeyHex : Option String) : Option String := do
  let normalizedOwner ← normalizePubkeyHex toLowercase ownerPubkeyHex
  let normalizedRumorPubkey ← normalizePubkeyHex toLowercase rumorPubkeyHex
  let normalizedSenderPubkey := senderPubkeyHex.bind (normalizePubkeyHex toLowercase)
  if normalizedRumorPubkey = normalizedOwner ∨ normalizedSenderPubkey = some normalizedOwner then
    firstTagValue toLowercase rumorTags "p"
  else some normalizedRumorPubkey

def addCandidate (candidates : List String) (candidate : Option String) : List String :=
  match candidate with
  | none => candidates
  | some candidate =>
      if candidate ∈ candidates then candidates else candidates ++ [candidate]

def resolveConversationCandidatePubkeys (ownerPubkeyHex rumorPubkeyHex : String)
    (rumorTags : List (List String)) (senderPubkeyHex : String) : List String :=
  match normalizePubkeyHex toLowercase ownerPubkeyHex,
      normalizePubkeyHex toLowercase senderPubkeyHex,
      normalizePubkeyHex toLowercase rumorPubkeyHex with
  | some owner, some sender, some rumorAuthor =>
      let pTagPubkey := firstTagValue toLowercase rumorTags "p"
      if (rumorAuthor = owner ∨ sender = owner) ∧
          pTagPubkey.all (fun pTag => pTag = "" || pTag = owner) then
        let candidates := if rumorAuthor ≠ owner then addCandidate [] (some rumorAuthor) else []
        let candidates := if sender ≠ owner then addCandidate candidates (some sender)
          else candidates
        addCandidate candidates (some owner)
      else
        addCandidate (addCandidate [] (resolveRumorPeerPubkey toLowercase owner rumorPubkeyHex
          rumorTags (some sender))) (some sender)
  | _, _, _ => []

end

end MultiDevice

/-! `multiDevice.ts`. -/

namespace TypeScript.MultiDevice

section

variable (toLowerCase : String → String)

/-- `value.trim().toLowerCase()`. -/
def normalized (value : String) : String := toLowerCase (jsTrim value)

/-- `tags.find((tag) => tag[0] === name)?.[1]`. -/
def firstTagValue (tags : List (List String)) (name : String) : Option String :=
  (tags.find? (fun tag => tag.head? = some name)).bind (fun tag => tag[1]?)

def resolveRumorPeerPubkey (ownerPubkey rumorPubkey : String) (rumorTags : List (List String))
    (senderPubkey : Option String) : Option String :=
  let normalizedOwner := normalized toLowerCase ownerPubkey
  if normalized toLowerCase rumorPubkey = normalizedOwner ∨
      senderPubkey.map (normalized toLowerCase) = some normalizedOwner then
    firstTagValue rumorTags "p"
  else some rumorPubkey

def addCandidate (candidates : List String) (candidate : Option String) : List String :=
  match candidate.map (normalized toLowerCase) with
  | none => candidates
  | some candidate =>
      if candidate = "" || candidate ∈ candidates then candidates else candidates ++ [candidate]

def resolveConversationCandidatePubkeys (ownerPubkey rumorPubkey : String)
    (rumorTags : List (List String)) (senderPubkey : String) : List String :=
  let owner := normalized toLowerCase ownerPubkey
  let sender := normalized toLowerCase senderPubkey
  let rumorAuthor := normalized toLowerCase rumorPubkey
  let pTagPubkey := (firstTagValue rumorTags "p").map (normalized toLowerCase)
  if (rumorAuthor = owner ∨ sender = owner) ∧
      pTagPubkey.all (fun pTag => pTag = "" || pTag = owner) then
    let candidates := if rumorAuthor ≠ owner then addCandidate toLowerCase [] (some rumorAuthor)
      else []
    let candidates := if sender ≠ owner then addCandidate toLowerCase candidates (some sender)
      else candidates
    addCandidate toLowerCase candidates (some owner)
  else
    addCandidate toLowerCase (addCandidate toLowerCase [] (resolveRumorPeerPubkey toLowerCase owner
      rumorPubkey rumorTags (some sender))) (some sender)

end

end TypeScript.MultiDevice

/-! The routing both of them follow. -/

namespace Routing

/-- Lower case as Unicode has it. Letters are not white space. -/
structure LowercaseLaws (lower : String → String) : Prop where
  idempotent : ∀ text, lower (lower text) = lower text
  eq_empty : ∀ text, lower text = "" → text = ""
  trimmed : ∀ text, trim text = text → trim (lower text) = lower text
  jsTrimmed : ∀ text, TypeScript.jsTrim text = text → TypeScript.jsTrim (lower text) = lower text

/-- Both languages trim the text to the same one. -/
def SameTrim (text : String) : Prop := trim text = TypeScript.jsTrim text

/-- The peer of a rumor, when the first `p` tag names `peer`. -/
def peerOf (owner sender rumorAuthor : String) (peer : Option String) : Option String :=
  if rumorAuthor = owner ∨ sender = owner then peer else some rumorAuthor

/-- The candidates, for keys without padding and in lower case. -/
def route (owner sender rumorAuthor : String) (peer : Option String) : List String :=
  if (rumorAuthor = owner ∨ sender = owner) ∧ (peer = none ∨ peer = some owner) then
    ((if rumorAuthor ≠ owner then [rumorAuthor] else []) ++
      if sender ≠ owner ∧ sender ≠ rumorAuthor then [sender] else []) ++ [owner]
  else
    match peerOf owner sender rumorAuthor peer with
    | none => [sender]
    | some peer => if peer = sender then [sender] else [peer, sender]

variable {owner sender rumorAuthor : String} {peer : Option String}

theorem route_ne_nil : route owner sender rumorAuthor peer ≠ [] := by
  unfold route
  split
  · exact List.append_ne_nil_of_right_ne_nil _ (List.cons_ne_nil _ _)
  · split
    · exact List.cons_ne_nil _ _
    · split
      · exact List.cons_ne_nil _ _
      · exact List.cons_ne_nil _ _

theorem nodup_route : (route owner sender rumorAuthor peer).Nodup := by
  unfold route
  split
  · by_cases hauthor : rumorAuthor = owner
    · by_cases hsender : sender = owner
      · simp [hauthor, hsender]
      · simp [hauthor, hsender]
    · by_cases hsender : sender = owner
      · simp [hauthor, hsender]
      · by_cases hsame : sender = rumorAuthor
        · simp [hauthor, hsame]
        · simp [hauthor, hsender, hsame, eq_comm]
  · split
    · exact List.nodup_singleton _
    · split
      · exact List.nodup_singleton _
      · rename_i hne
        simpa using hne

/-- The owner is a candidate only of the owner's own rumors. -/
theorem owner_of_mem_route (h : owner ∈ route owner sender rumorAuthor peer) :
    rumorAuthor = owner ∨ sender = owner := by
  unfold route at h
  split at h
  · rename_i hself
    exact hself.1
  · by_contra hother
    unfold peerOf at h
    rw [if_neg hother] at h
    dsimp only at h
    obtain ⟨hauthor, hsender⟩ := not_or.mp hother
    split at h
    · exact hsender (List.mem_singleton.mp h).symm
    · obtain heq | hmem := List.mem_cons.mp h
      · exact hauthor heq.symm
      · exact hsender (List.mem_singleton.mp hmem).symm

/-- The owner's rumors go to the peer they name. -/
theorem head?_route {other : String} (howner : rumorAuthor = owner ∨ sender = owner)
    (hne : other ≠ owner) : (route owner sender rumorAuthor (some other)).head? = some other := by
  unfold route peerOf
  rw [if_neg, if_pos howner]
  · dsimp only
    split
    · rename_i heq
      rw [heq]
      rfl
    · rfl
  · rintro ⟨-, hnone | hsame⟩
    · cases hnone
    · exact hne (Option.some.inj hsame)

/-! Both clients compute it. -/

variable {lower : String → String}

theorem normalizePubkeyHex_eq {text : String} (h : SameTrim text) :
    MultiDevice.normalizePubkeyHex lower text =
      (some (TypeScript.MultiDevice.normalized lower text)).filter (· ≠ "") := by
  unfold MultiDevice.normalizePubkeyHex TypeScript.MultiDevice.normalized
  rw [h]
  by_cases hempty : lower (TypeScript.jsTrim text) = ""
  · rw [hempty]
    rfl
  · dsimp only
    rw [if_neg hempty, Option.filter, if_pos (decide_eq_true hempty)]

theorem normalized_normalized (hlaws : LowercaseLaws lower) (text : String) :
    TypeScript.MultiDevice.normalized lower (TypeScript.MultiDevice.normalized lower text) =
      TypeScript.MultiDevice.normalized lower text := by
  have htrim : TypeScript.jsTrim (TypeScript.jsTrim text) = TypeScript.jsTrim text := by
    unfold TypeScript.jsTrim
    rw [String.toList_ofList, trim_idempotent]
  unfold TypeScript.MultiDevice.normalized
  rw [hlaws.jsTrimmed _ htrim, hlaws.idempotent]

/-- A key without padding and in lower case. -/
structure Key (lower : String → String) (text : String) : Prop where
  normalizes : MultiDevice.normalizePubkeyHex lower text = some text
  normalized : TypeScript.MultiDevice.normalized lower text = text
  ne_empty : text ≠ ""

/-- What both clients read a padded key as. -/
theorem key_of_text (hlaws : LowercaseLaws lower) {text : String} (hsame : SameTrim text)
    (hne : trim text ≠ "") :
    Key lower (TypeScript.MultiDevice.normalized lower text) ∧
      MultiDevice.normalizePubkeyHex lower text =
        some (TypeScript.MultiDevice.normalized lower text) := by
  have hnormal : TypeScript.MultiDevice.normalized lower text = lower (trim text) := by
    unfold TypeScript.MultiDevice.normalized
    rw [hsame]
  have hlower : lower (trim text) ≠ "" := fun hempty => hne (hlaws.eq_empty _ hempty)
  have hread : MultiDevice.normalizePubkeyHex lower text = some (lower (trim text)) :=
    if_neg hlower
  refine ⟨⟨?_, normalized_normalized hlaws text, ?_⟩, ?_⟩
  · rw [hnormal]
    unfold MultiDevice.normalizePubkeyHex
    rw [hlaws.trimmed _ (trimmed_trim text), hlaws.idempotent]
    exact if_neg hlower
  · rw [hnormal]
    exact hlower
  · rw [hnormal]
    exact hread

theorem firstTagValue_ne_empty (tags : List (List String)) (name : String) :
    MultiDevice.firstTagValue lower tags name ≠ some "" := by
  intro heq
  obtain ⟨tag, -, hvalue⟩ := Option.bind_eq_some_iff.mp heq
  obtain ⟨value, -, hread⟩ := Option.bind_eq_some_iff.mp hvalue
  unfold MultiDevice.normalizePubkeyHex at hread
  dsimp only at hread
  split at hread
  · cases hread
  · rename_i hne
    exact hne (Option.some.inj hread)

/-- A peer that is no blank text is no other than the owner when it is blank or the owner. -/
theorem all_blank_or_owner (hne : peer ≠ some "") :
    (peer.all (fun pTag => pTag = "" || pTag = owner)) = true ↔
      (peer = none ∨ peer = some owner) := by
  cases peer with
  | none => simp
  | some pTag =>
      have hblank : pTag ≠ "" := fun heq => hne (congrArg some heq)
      simp [hblank]

/-- The candidates of a rumor the owner keeps. -/
theorem addCandidate_self (owner sender rumorAuthor : String) :
    MultiDevice.addCandidate
      (if sender ≠ owner then
        MultiDevice.addCandidate
          (if rumorAuthor ≠ owner then MultiDevice.addCandidate [] (some rumorAuthor) else [])
          (some sender)
      else if rumorAuthor ≠ owner then MultiDevice.addCandidate [] (some rumorAuthor) else [])
      (some owner) =
    ((if rumorAuthor ≠ owner then [rumorAuthor] else []) ++
      if sender ≠ owner ∧ sender ≠ rumorAuthor then [sender] else []) ++ [owner] := by
  unfold MultiDevice.addCandidate
  by_cases hauthor : rumorAuthor = owner
  · by_cases hsender : sender = owner
    · simp [hauthor, hsender]
    · simp [hauthor, hsender, Ne.symm hsender]
  · by_cases hsender : sender = owner
    · simp [hauthor, hsender, Ne.symm hauthor]
    · by_cases hsame : sender = rumorAuthor
      · simp [hauthor, hsame, Ne.symm hauthor]
      · simp [hauthor, hsender, hsame, Ne.symm hauthor, Ne.symm hsender]

/-- The candidates of a rumor from or to a peer. -/
theorem addCandidate_peer (peer : Option String) (sender : String) :
    MultiDevice.addCandidate (MultiDevice.addCandidate [] peer) (some sender) =
      match peer with
      | none => [sender]
      | some peer => if peer = sender then [sender] else [peer, sender] := by
  unfold MultiDevice.addCandidate
  cases peer with
  | none => rfl
  | some peer =>
      by_cases hsame : peer = sender
      · simp [hsame]
      · simp [hsame, Ne.symm hsame]

/-! Rust. -/

theorem resolveRumorPeerPubkey_eq {ownerText rumorText : String}
    (howner : MultiDevice.normalizePubkeyHex lower ownerText = some owner)
    (hrumor : MultiDevice.normalizePubkeyHex lower rumorText = some rumorAuthor)
    {senderText : String} (hsender : MultiDevice.normalizePubkeyHex lower senderText = some sender)
    (tags : List (List String)) :
    MultiDevice.resolveRumorPeerPubkey lower ownerText rumorText tags (some senderText) =
      peerOf owner sender rumorAuthor (MultiDevice.firstTagValue lower tags "p") := by
  unfold MultiDevice.resolveRumorPeerPubkey peerOf
  rw [howner, hrumor]
  change (if rumorAuthor = owner ∨
    MultiDevice.normalizePubkeyHex lower senderText = some owner then _ else _) = _
  rw [hsender]
  simp only [Option.some.injEq]

theorem resolveConversationCandidatePubkeys_eq {ownerText rumorText senderText : String}
    (howner : MultiDevice.normalizePubkeyHex lower ownerText = some owner)
    (hrumor : MultiDevice.normalizePubkeyHex lower rumorText = some rumorAuthor)
    (hsender : MultiDevice.normalizePubkeyHex lower senderText = some sender)
    (hownerKey : Key lower owner) (hsenderKey : Key lower sender) (tags : List (List String)) :
    MultiDevice.resolveConversationCandidatePubkeys lower ownerText rumorText tags senderText =
      route owner sender rumorAuthor (MultiDevice.firstTagValue lower tags "p") := by
  have hblank : MultiDevice.firstTagValue lower tags "p" ≠ some "" :=
    firstTagValue_ne_empty tags "p"
  unfold MultiDevice.resolveConversationCandidatePubkeys route
  rw [howner, hrumor, hsender]
  dsimp only
  rw [resolveRumorPeerPubkey_eq hownerKey.normalizes hrumor hsenderKey.normalizes,
    addCandidate_self, addCandidate_peer]
  simp only [all_blank_or_owner hblank]

/-! TypeScript. -/

/-- The value of the first `p` tag, as the client compares it. -/
def tsPeer (lower : String → String) (tags : List (List String)) : Option String :=
  ((TypeScript.MultiDevice.firstTagValue tags "p").map
    (TypeScript.MultiDevice.normalized lower)).filter (· ≠ "")

theorem addCandidate_eq (candidates : List String) (candidate : Option String) :
    TypeScript.MultiDevice.addCandidate lower candidates candidate =
      MultiDevice.addCandidate candidates
        ((candidate.map (TypeScript.MultiDevice.normalized lower)).filter (· ≠ "")) := by
  unfold TypeScript.MultiDevice.addCandidate MultiDevice.addCandidate
  cases candidate with
  | none => rfl
  | some text =>
      rw [Option.map_some, Option.filter]
      by_cases hempty : TypeScript.MultiDevice.normalized lower text = ""
      · simp [hempty]
      · simp [hempty]

theorem addCandidate_key {text : String} (h : Key lower text) (candidates : List String) :
    TypeScript.MultiDevice.addCandidate lower candidates (some text) =
      MultiDevice.addCandidate candidates (some text) := by
  rw [addCandidate_eq, Option.map_some, h.normalized, Option.filter,
    if_pos (decide_eq_true h.ne_empty)]

theorem tsResolveRumorPeerPubkey_eq {ownerText rumorText senderText : String}
    (howner : TypeScript.MultiDevice.normalized lower ownerText = owner)
    (hrumor : TypeScript.MultiDevice.normalized lower rumorText = rumorAuthor)
    (hsender : TypeScript.MultiDevice.normalized lower senderText = sender)
    (tags : List (List String)) :
    TypeScript.MultiDevice.resolveRumorPeerPubkey lower ownerText rumorText tags
        (some senderText) =
      if rumorAuthor = owner ∨ sender = owner then
        TypeScript.MultiDevice.firstTagValue tags "p"
      else some rumorText := by
  unfold TypeScript.MultiDevice.resolveRumorPeerPubkey
  simp only [howner, hrumor, Option.map_some, hsender, Option.some.injEq]

theorem tsResolveConversationCandidatePubkeys_eq {ownerText rumorText senderText : String}
    (howner : TypeScript.MultiDevice.normalized lower ownerText = owner)
    (hrumor : TypeScript.MultiDevice.normalized lower rumorText = rumorAuthor)
    (hsender : TypeScript.MultiDevice.normalized lower senderText = sender)
    (hownerKey : Key lower owner) (hrumorKey : Key lower rumorAuthor)
    (hsenderKey : Key lower sender) (tags : List (List String)) :
    TypeScript.MultiDevice.resolveConversationCandidatePubkeys lower ownerText rumorText tags
      senderText = route owner sender rumorAuthor (tsPeer lower tags) := by
  have hpeer : ((TypeScript.MultiDevice.resolveRumorPeerPubkey lower owner rumorText tags
      (some sender)).map (TypeScript.MultiDevice.normalized lower)).filter (· ≠ "") =
        peerOf owner sender rumorAuthor (tsPeer lower tags) := by
    rw [tsResolveRumorPeerPubkey_eq hownerKey.normalized hrumor hsenderKey.normalized]
    unfold peerOf
    split
    · rfl
    · rw [Option.map_some, hrumor, Option.filter, if_pos (decide_eq_true hrumorKey.ne_empty)]
  have hblank : tsPeer lower tags ≠ some "" := by
    intro heq
    have hmem := Option.mem_filter_iff.mp (Option.mem_def.mpr heq)
    simp at hmem
  have hself : ((TypeScript.MultiDevice.firstTagValue tags "p").map
      (TypeScript.MultiDevice.normalized lower)).all (fun pTag => pTag = "" || pTag = owner) =
        true ↔ (tsPeer lower tags = none ∨ tsPeer lower tags = some owner) := by
    rw [← all_blank_or_owner hblank]
    unfold tsPeer
    cases (TypeScript.MultiDevice.firstTagValue tags "p").map
      (TypeScript.MultiDevice.normalized lower) with
    | none => rfl
    | some pTag =>
        rw [Option.filter]
        by_cases hempty : pTag = ""
        · simp [hempty]
        · simp [hempty]
  unfold TypeScript.MultiDevice.resolveConversationCandidatePubkeys route
  rw [howner, hrumor, hsender]
  dsimp only
  rw [addCandidate_key hownerKey, addCandidate_key hsenderKey, addCandidate_key hrumorKey,
    addCandidate_key hsenderKey, addCandidate_eq, hpeer, addCandidate_self, addCandidate_peer]
  simp only [hself]

/-! The `p` tag that each client reads. -/

theorem find?_and {α : Type} {p q : α → Bool} {items : List α} {item : α}
    (h : items.find? p = some item) (hitem : q item = true) :
    items.find? (fun x => p x && q x) = some item := by
  induction items with
  | nil => cases h
  | cons first rest ih =>
      rw [List.find?_cons] at h ⊢
      cases hfirst : p first with
      | true =>
          rw [hfirst] at h
          cases h
          rw [hitem]
          rfl
      | false =>
          rw [hfirst] at h
          exact ih h

/-- The values of `p` tags trim alike. -/
def TagsTrimAlike (tags : List (List String)) : Prop :=
  ∀ tag ∈ tags, tag.head? = some "p" → ∀ value, tag[1]? = some value → SameTrim value

theorem bind_normalizePubkeyHex {tags : List (List String)} (hsame : TagsTrimAlike tags) :
    (TypeScript.MultiDevice.firstTagValue tags "p").bind (MultiDevice.normalizePubkeyHex lower) =
      tsPeer lower tags := by
  unfold tsPeer TypeScript.MultiDevice.firstTagValue
  cases hfind : tags.find? (fun tag => tag.head? = some "p") with
  | none => rfl
  | some tag =>
      rw [Option.bind_some]
      cases hvalue : tag[1]? with
      | none => rfl
      | some value =>
          have hname := List.find?_some hfind
          exact normalizePubkeyHex_eq (hsame tag (List.mem_of_find?_eq_some hfind)
            (of_decide_eq_true hname) value hvalue)

/-- A first `p` tag with a value is the one Rust finds. -/
theorem firstTagValue_of_isSome {tags : List (List String)}
    (h : (TypeScript.MultiDevice.firstTagValue tags "p").isSome = true) :
    MultiDevice.firstTagValue lower tags "p" =
      (TypeScript.MultiDevice.firstTagValue tags "p").bind
        (MultiDevice.normalizePubkeyHex lower) := by
  obtain ⟨value, hfirst⟩ := Option.isSome_iff_exists.mp h
  obtain ⟨tag, hfind, hvalue⟩ := Option.bind_eq_some_iff.mp hfirst
  obtain ⟨hlength, -⟩ := List.getElem?_eq_some_iff.mp hvalue
  have hrust : tags.find? (fun tag => decide (tag.head? = some "p") && decide (2 ≤ tag.length)) =
      some tag := find?_and hfind (decide_eq_true hlength)
  unfold MultiDevice.firstTagValue
  rw [hrust, hfirst, Option.bind_some, hvalue]

/-- The clients read the same peer unless the first `p` tag has no value and a later one does. -/
theorem firstTagValue_eq_tsPeer_iff {tags : List (List String)} (hsame : TagsTrimAlike tags) :
    MultiDevice.firstTagValue lower tags "p" = tsPeer lower tags ↔
      (TypeScript.MultiDevice.firstTagValue tags "p").isSome = true ∨
        MultiDevice.firstTagValue lower tags "p" = none := by
  rw [← bind_normalizePubkeyHex hsame]
  constructor
  · intro heq
    cases hfirst : TypeScript.MultiDevice.firstTagValue tags "p" with
    | some value => exact .inl rfl
    | none =>
        rw [hfirst] at heq
        exact .inr heq
  · rintro (hsome | hnone)
    · exact firstTagValue_of_isSome hsome
    · cases hfirst : TypeScript.MultiDevice.firstTagValue tags "p" with
      | none => exact hnone
      | some value =>
          rw [← hfirst, ← firstTagValue_of_isSome]
          rw [hfirst]
          rfl

/-! The agreement. -/

/-- The rumor was written or sent by the owner. -/
def Own (lower : String → String) (ownerText rumorText senderText : String) : Prop :=
  TypeScript.MultiDevice.normalized lower rumorText =
      TypeScript.MultiDevice.normalized lower ownerText ∨
    TypeScript.MultiDevice.normalized lower senderText =
      TypeScript.MultiDevice.normalized lower ownerText

/-- Both clients find the same candidates and the same peer, and the list is one a rumor can be
filed by. -/
structure RoutesAlike (lower : String → String) (ownerText rumorText : String)
    (tags : List (List String)) (senderText : String) : Prop where
  candidates :
    MultiDevice.resolveConversationCandidatePubkeys lower ownerText rumorText tags senderText =
      TypeScript.MultiDevice.resolveConversationCandidatePubkeys lower ownerText rumorText tags
        senderText
  peer :
    MultiDevice.resolveRumorPeerPubkey lower ownerText rumorText tags (some senderText) =
      (TypeScript.MultiDevice.resolveRumorPeerPubkey lower ownerText rumorText tags
        (some senderText)).bind (MultiDevice.normalizePubkeyHex lower)
  ne_nil :
    MultiDevice.resolveConversationCandidatePubkeys lower ownerText rumorText tags senderText ≠ []
  nodup :
    (MultiDevice.resolveConversationCandidatePubkeys lower ownerText rumorText tags
      senderText).Nodup
  own_of_mem :
    TypeScript.MultiDevice.normalized lower ownerText ∈
        MultiDevice.resolveConversationCandidatePubkeys lower ownerText rumorText tags
          senderText →
      Own lower ownerText rumorText senderText
  peer_first : ∀ value, TypeScript.MultiDevice.firstTagValue tags "p" = some value →
    TypeScript.MultiDevice.normalized lower value ≠ "" →
    TypeScript.MultiDevice.normalized lower value ≠
      TypeScript.MultiDevice.normalized lower ownerText →
    Own lower ownerText rumorText senderText →
    (MultiDevice.resolveConversationCandidatePubkeys lower ownerText rumorText tags
      senderText).head? = some (TypeScript.MultiDevice.normalized lower value)

namespace AsciiCase

def lowercase (text : String) : String := String.ofList (text.toList.map Char.toLower)

theorem isJsWhitespace_toLower (c : Char) :
    TypeScript.isJsWhitespace c.toLower = TypeScript.isJsWhitespace c := by
  have hnat := toNat_toLower c
  unfold TypeScript.isJsWhitespace
  rw [hnat]
  split
  · rw [Bool.eq_iff_iff]
    simp only [Bool.or_eq_true, Bool.and_eq_true, decide_eq_true_eq]
    omega
  · rfl

theorem laws : LowercaseLaws lowercase where
  idempotent text := by
    unfold lowercase
    rw [String.toList_ofList, List.map_map]
    have hcomp : Char.toLower ∘ Char.toLower = Char.toLower := funext toLower_toLower
    rw [hcomp]
  eq_empty text h := by
    unfold lowercase at h
    have hlist := congrArg String.toList h
    rw [String.toList_ofList] at hlist
    exact String.toList_eq_nil_iff.mp (List.map_eq_nil_iff.mp hlist)
  trimmed text h := by
    have hlist := congrArg String.toList h
    rw [trim_eq_trimBy, String.toList_ofList] at hlist
    unfold lowercase
    rw [trim_eq_trimBy, String.toList_ofList, trimBy_map isWhitespace_toLower, hlist]
  jsTrimmed text h := by
    have hlist : trimBy TypeScript.isJsWhitespace text.toList = text.toList := by
      have hlist := congrArg String.toList h
      unfold TypeScript.jsTrim at hlist
      rwa [String.toList_ofList] at hlist
    have hmap := trimBy_map isJsWhitespace_toLower text.toList
    rw [hlist] at hmap
    unfold lowercase TypeScript.jsTrim
    rw [String.toList_ofList]
    exact congrArg String.ofList hmap

/-- A rumor of the owner whose first `p` tag has no value. -/
def tags : List (List String) := [["p"], ["p", "bob"]]

theorem tags_trim_alike : TagsTrimAlike tags := by
  intro tag hmem _ value hvalue
  obtain rfl | rfl : tag = ["p"] ∨ tag = ["p", "bob"] := by simpa [tags] using hmem
  · cases hvalue
  · cases hvalue
    exact (by decide +kernel : trim "bob" = TypeScript.jsTrim "bob")

end AsciiCase

end Routing

end NostrDoubleRatchet
