import NostrDoubleRatchet.Lib.Selection
import NostrDoubleRatchet.SessionManager.Records
import NostrDoubleRatchet.TypeScript.SessionRecords

/-!
Which session of a device is sent on: `best_send_session_source` of the Rust client beside
`sortedSendableSessionCandidates` of the TypeScript client, over records whose sessions
correspond. Both take the first of the greatest sessions, by orders that differ.
-/

namespace NostrDoubleRatchet

/-- The place of a session in its record: the active one is first. -/
def SendSessionSource.position : SendSessionSource → Nat
  | .active => 0
  | .inactive index => index + 1

/-- The sessions of a record that can send, each with its place. -/
def sendable {S : Type} (canSend : S → Bool) (activeSession : Option S)
    (inactiveSessions : List S) : List (SendSessionSource × S) :=
  (activeSession.toList.map (fun session => (SendSessionSource.active, session)) ++
    inactiveSessions.zipIdx.map (fun entry => (SendSessionSource.inactive entry.2, entry.1))).filter
      (fun candidate => canSend candidate.2)

section Sendable

variable {S S' : Type} {canSend : S → Bool} {activeSession : Option S} {inactiveSessions : List S}

theorem mem_sendable {candidate : SendSessionSource × S} :
    candidate ∈ sendable canSend activeSession inactiveSessions ↔
      canSend candidate.2 = true ∧ match candidate.1 with
        | .active => activeSession = some candidate.2
        | .inactive index => inactiveSessions[index]? = some candidate.2 := by
  obtain ⟨source, session⟩ := candidate
  unfold sendable
  rw [List.mem_filter, List.mem_append, List.mem_map, List.mem_map, and_comm]
  refine and_congr_right fun _ => ?_
  cases source with
  | active => simp
  | inactive index => simp [List.mem_zipIdx_iff_getElem?]

theorem sendable_positions : (sendable canSend activeSession inactiveSessions).Pairwise
    (fun a b => a.1.position < b.1.position) := by
  unfold sendable
  apply List.Pairwise.filter
  rw [List.pairwise_append]
  refine ⟨?_, ?_, ?_⟩
  · cases activeSession <;> simp
  · rw [List.pairwise_map]
    have hindices : (List.range' 0 inactiveSessions.length).Pairwise (· < ·) :=
      List.pairwise_lt_range'
    rw [← List.zipIdx_map_snd, List.pairwise_map] at hindices
    exact hindices.imp (fun hless => Nat.succ_lt_succ hless)
  · intro first hfirst second hsecond
    obtain ⟨session, -, rfl⟩ := List.mem_map.mp hfirst
    obtain ⟨entry, -, rfl⟩ := List.mem_map.mp hsecond
    exact Nat.succ_pos _

theorem SendSessionSource.position_injective : Function.Injective SendSessionSource.position := by
  intro first second h
  cases first <;> cases second <;> simp_all [SendSessionSource.position]

theorem eq_of_position {first second : SendSessionSource × S}
    (hfirst : first ∈ sendable canSend activeSession inactiveSessions)
    (hsecond : second ∈ sendable canSend activeSession inactiveSessions)
    (h : first.1.position = second.1.position) : first = second := by
  obtain ⟨source, session⟩ := first
  obtain ⟨source', session'⟩ := second
  have hsource : source = source' := SendSessionSource.position_injective h
  subst hsource
  have hsession := (mem_sendable.mp hfirst).2
  have hsession' := (mem_sendable.mp hsecond).2
  cases source with
  | active =>
      dsimp only at hsession hsession'
      rw [Option.some.inj (hsession.symm.trans hsession')]
  | inactive index =>
      dsimp only at hsession hsession'
      rw [Option.some.inj (hsession.symm.trans hsession')]

/-- Records whose sessions correspond have the same candidates. -/
theorem map_sendable {β : Type} {canSend' : S' → Bool} {R : S → S' → Prop} {f : S → β}
    {g : S' → β} (hcan : ∀ session session', R session session' →
      canSend session = canSend' session')
    (hvalue : ∀ session session', R session session' → canSend session = true →
      f session = g session')
    {activeSession' : Option S'} {inactiveSessions' : List S'}
    (hactive : Option.Rel R activeSession activeSession')
    (hinactive : List.Forall₂ R inactiveSessions inactiveSessions') :
    (sendable canSend activeSession inactiveSessions).map (fun c => (c.1, f c.2)) =
      (sendable canSend' activeSession' inactiveSessions').map (fun c => (c.1, g c.2)) := by
  have hlist : ∀ start : Nat, List.Forall₂ (fun c c' => c.1 = c'.1 ∧ R c.2 c'.2)
      ((inactiveSessions.zipIdx start).map (fun entry =>
        (SendSessionSource.inactive entry.2, entry.1)))
      ((inactiveSessions'.zipIdx start).map (fun entry =>
        (SendSessionSource.inactive entry.2, entry.1))) := by
    induction hinactive with
    | nil => exact fun _ => .nil
    | cons hR _ ih => exact fun start => .cons ⟨rfl, hR⟩ (ih (start + 1))
  have hplaced : List.Forall₂ (fun c c' => c.1 = c'.1 ∧ R c.2 c'.2)
      (activeSession.toList.map (fun session => (SendSessionSource.active, session)) ++
        inactiveSessions.zipIdx.map (fun entry => (SendSessionSource.inactive entry.2, entry.1)))
      (activeSession'.toList.map (fun session => (SendSessionSource.active, session)) ++
        inactiveSessions'.zipIdx.map (fun entry =>
          (SendSessionSource.inactive entry.2, entry.1))) := by
    cases hactive with
    | none => exact hlist 0
    | some hR => exact .cons ⟨rfl, hR⟩ (hlist 0)
  unfold sendable
  generalize activeSession.toList.map _ ++ inactiveSessions.zipIdx.map _ = placed at hplaced ⊢
  generalize activeSession'.toList.map _ ++ inactiveSessions'.zipIdx.map _ = placed' at hplaced ⊢
  induction hplaced with
  | nil => rfl
  | @cons first second _ _ hR _ ih =>
      have hsame := hcan _ _ hR.2
      cases hsend : canSend first.2 with
      | false =>
          rw [hsend] at hsame
          rw [List.filter_cons_of_neg (by simp [hsend]),
            List.filter_cons_of_neg (by simp [← hsame]), ih]
      | true =>
          rw [hsend] at hsame
          rw [List.filter_cons_of_pos (by simp [hsend]),
            List.filter_cons_of_pos (by simp [← hsame]), List.map_cons, List.map_cons, ih, hR.1, hvalue _ _ hR.2 hsend]

end Sendable

/-! The Rust client. -/

section Rust

variable {K T : Type} [LinearOrder K]

theorem bestInactiveSource_eq (index : Nat) (sessions : List (Session K))
    (best : Option (SendSessionSource × SessionPriority)) :
    DeviceRecord.bestInactiveSource index sessions best =
      ((((sessions.zipIdx index).map (fun entry =>
        (SendSessionSource.inactive entry.2, entry.1))).filter (fun c => c.2.canSend)).map
          (fun c => (c.1, sessionPriority c.2))).foldl (Selection.greater Prod.snd) best := by
  induction sessions generalizing index best with
  | nil => rfl
  | cons session rest ih =>
      unfold DeviceRecord.bestInactiveSource
      rw [ih, ih, List.zipIdx_cons, List.map_cons]
      cases hsend : session.canSend with
      | false =>
          rw [List.filter_cons_of_neg (by simp [hsend])]
          simp
      | true =>
          rw [List.filter_cons_of_pos (by simp [hsend]), List.map_cons, List.foldl_cons]
          cases best with
          | none => rfl
          | some current =>
              rw [Selection.greater_some]
              by_cases hless : current.2 < sessionPriority session
              · simp [hless]
              · simp [hless]

/-- The Rust client takes the first of the sessions of greatest priority. -/
theorem bestSendSessionSource_eq (record : DeviceRecord K T) :
    record.bestSendSessionSource =
      ((sendable Session.canSend record.activeSession record.inactiveSessions).argmax
        (fun c => sessionPriority c.2)).map Prod.fst := by
  have hpairs : ((sendable Session.canSend record.activeSession record.inactiveSessions).map
      (fun c => (c.1, sessionPriority c.2))).argmax Prod.snd =
        DeviceRecord.bestInactiveSource 0 record.inactiveSessions
          ((record.activeSession.filter Session.canSend).map (fun session =>
            (SendSessionSource.active, sessionPriority session))) := by
    rw [bestInactiveSource_eq]
    unfold sendable
    rw [List.filter_append, List.map_append]
    change List.foldl (Selection.greater Prod.snd) none _ = _
    rw [List.foldl_append]
    congr 1
    cases record.activeSession with
    | none => rfl
    | some session =>
        cases hsend : session.canSend with
        | false => simp [hsend]
        | true => simp [hsend, Selection.greater, List.argAux]
  unfold DeviceRecord.bestSendSessionSource
  dsimp only
  rw [← hpairs, Selection.argmax_map, Option.map_map]
  rfl

end Rust

namespace TypeScript.SessionRecords

/-! The TypeScript client. -/

/-- `sendSessionPriority` as a value of a lexicographic order. -/
def sendRank (candidate : SendCandidate) : Nat ×ₗ Nat ×ₗ Nat ×ₗ Nat ×ₗ Nat :=
  let direction :=
    if sessionCanSend candidate.session && sessionCanReceive candidate.session then 3
    else if sessionCanSend candidate.session then 2
    else if sessionCanReceive candidate.session then 1 else 0
  toLex (direction, toLex (if candidate.active && sessionCanReceive candidate.session then 1 else 0,
    toLex (candidate.session.state.receivingChainMessageNumber,
      toLex (candidate.session.state.previousSendingChainMessageCount,
        candidate.session.state.sendingChainMessageNumber))))

theorem compareSessionPriority_le_cons {left right : Nat} {lefts rights : List Nat} :
    compareSessionPriority (left :: lefts) (right :: rights) ≤ 0 ↔
      left < right ∨ left = right ∧ compareSessionPriority lefts rights ≤ 0 := by
  rw [compareSessionPriority]
  split <;> omega

theorem compareSessionPriority_le (left right : SendCandidate) :
    compareSessionPriority (sendSessionPriority left.session left.active)
      (sendSessionPriority right.session right.active) ≤ 0 ↔ sendRank left ≤ sendRank right := by
  have hlast : ∀ a b : Nat, compareSessionPriority [a] [b] ≤ 0 ↔ a ≤ b := by
    intro a b
    rw [compareSessionPriority_le_cons]
    simp only [compareSessionPriority]
    omega
  unfold sendSessionPriority sessionPriority sendRank
  simp only [compareSessionPriority_le_cons, hlast, Prod.Lex.toLex_le_toLex]

def candidateOf (candidate : SendSessionSource × Session) : SendCandidate :=
  ⟨candidate.2, candidate.1 = .active⟩

/-- The TypeScript client takes the first of the sessions of greatest priority, by its order. -/
theorem head?_sortedSendableSessionCandidates (activeSession : Option Session)
    (inactiveSessions : List Session) :
    (sortedSendableSessionCandidates activeSession inactiveSessions).head? =
      ((sendable sessionCanSend activeSession inactiveSessions).argmax
        (sendRank ∘ candidateOf)).map candidateOf := by
  have hcandidates : (activeSession.toList.map (fun session => SendCandidate.mk session true) ++
      inactiveSessions.map (fun session => SendCandidate.mk session false)).filter
        (fun candidate => sessionCanSend candidate.session) =
      (sendable sessionCanSend activeSession inactiveSessions).map candidateOf := by
    have hinactive : inactiveSessions.zipIdx.map (fun entry => SendCandidate.mk entry.1 false) =
        inactiveSessions.map (fun session => SendCandidate.mk session false) := by
      rw [← List.zipIdx_map_fst 0 inactiveSessions, List.map_map, List.zipIdx_map_fst]
      rfl
    unfold sendable
    change _ = List.map candidateOf (List.filter ((fun candidate : SendCandidate =>
      sessionCanSend candidate.session) ∘ candidateOf) _)
    rw [← List.filter_map, List.map_append, List.map_map, List.map_map, ← hinactive]
    rfl
  unfold sortedSendableSessionCandidates
  simp only [compareSessionPriority_le]
  rw [Selection.head?_mergeSort, hcandidates, Selection.argmax_map]

/-! One session in both clients. -/

/-- How the TypeScript client writes the keys of the Rust client. -/
structure KeyEncoding (K : Type) where
  hex : K → String
  bytes : K → Bytes
  hex_ne : ∀ key, hex key ≠ ""

def KeyEncoding.keyPair {K : Type} (encoding : KeyEncoding K) (key : SerializableKeyPair K) :
    KeyPair :=
  ⟨encoding.hex key.publicKey.bytes, encoding.bytes key.privateKey⟩

/-- The two clients hold one ratchet state, the skipped keys left aside. A version that is not
there is zero in the Rust client. -/
structure Corresponds {K : Type} [LinearOrder K] (encoding : KeyEncoding K)
    (session : NostrDoubleRatchet.Session K) (other : Session) : Prop where
  metadataPrivacyVersion :
    other.state.metadataPrivacyVersion.getD 0 = session.state.metadataPrivacyVersion
  rootKey : other.state.rootKey = encoding.bytes session.state.rootKey
  theirCurrentNostrPublicKey : other.state.theirCurrentNostrPublicKey =
    session.state.theirCurrentNostrPublicKey.map (fun key => encoding.hex key.bytes)
  theirNextNostrPublicKey : other.state.theirNextNostrPublicKey =
    (session.state.theirNextNostrPublicKey.map (fun key => encoding.hex key.bytes)).getD ""
  ourCurrentNostrKey : other.state.ourCurrentNostrKey =
    session.state.ourCurrentNostrKey.map encoding.keyPair
  ourNextNostrKey : other.state.ourNextNostrKey = encoding.keyPair session.state.ourNextNostrKey
  receivingChainKey : other.state.receivingChainKey =
    session.state.receivingChainKey.map encoding.bytes
  sendingChainKey : other.state.sendingChainKey = session.state.sendingChainKey.map encoding.bytes
  sendingChainMessageNumber : other.state.sendingChainMessageNumber =
    session.state.sendingChainMessageNumber
  receivingChainMessageNumber : other.state.receivingChainMessageNumber =
    session.state.receivingChainMessageNumber
  previousSendingChainMessageCount : other.state.previousSendingChainMessageCount =
    session.state.previousSendingChainMessageCount

section

variable {K T : Type} [LinearOrder K] {encoding : KeyEncoding K}

theorem Corresponds.canSend {session : NostrDoubleRatchet.Session K} {other : Session}
    (h : Corresponds encoding session other) : session.canSend = sessionCanSend other := by
  have hversion : session.state.metadataPrivacyVersion =
      NostrDoubleRatchet.METADATA_PRIVACY_VERSION ↔
        other.state.metadataPrivacyVersion = some METADATA_PRIVACY_VERSION := by
    rw [← h.metadataPrivacyVersion]
    cases other.state.metadataPrivacyVersion with
    | none => simp [NostrDoubleRatchet.METADATA_PRIVACY_VERSION]
    | some version =>
        simp [NostrDoubleRatchet.METADATA_PRIVACY_VERSION, METADATA_PRIVACY_VERSION]
  have hnext : session.state.theirNextNostrPublicKey.isSome =
      decide (other.state.theirNextNostrPublicKey ≠ "") := by
    rw [h.theirNextNostrPublicKey]
    cases session.state.theirNextNostrPublicKey with
    | none => simp
    | some key => simp [encoding.hex_ne]
  unfold NostrDoubleRatchet.Session.canSend sessionCanSend
  rw [hnext, h.ourCurrentNostrKey, Option.isSome_map, decide_eq_decide.mpr hversion]

/-- The priority of the Rust client for a session that can send. -/
def counterRank (session : Session) : SessionPriority :=
  toLex (if sessionCanReceive session then 3 else 2,
    toLex (session.state.receivingChainMessageNumber, session.state.sendingChainMessageNumber))

theorem Corresponds.sessionPriority {session : NostrDoubleRatchet.Session K} {other : Session}
    (h : Corresponds encoding session other) (hsend : session.canSend = true) :
    NostrDoubleRatchet.sessionPriority session = counterRank other := by
  have hcurrent : (truthy other.state.theirCurrentNostrPublicKey).isSome =
      session.state.theirCurrentNostrPublicKey.isSome := by
    rw [h.theirCurrentNostrPublicKey]
    cases session.state.theirCurrentNostrPublicKey with
    | none => rfl
    | some key => simp [truthy, encoding.hex_ne]
  have hother : sessionCanSend other = true := h.canSend.symm.trans hsend
  have hversion : other.state.metadataPrivacyVersion = some METADATA_PRIVACY_VERSION := by
    unfold sessionCanSend at hother
    simp only [Bool.and_eq_true, decide_eq_true_eq] at hother
    exact hother.1.1
  unfold NostrDoubleRatchet.sessionPriority counterRank sessionCanReceive
  rw [hsend, h.receivingChainKey, hcurrent, h.receivingChainMessageNumber,
    h.sendingChainMessageNumber, Option.isSome_map, hversion]
  simp only [decide_true, Bool.true_and]
  split <;> simp_all

/-- The candidate that a source of the Rust client stands for. -/
def designated (activeSession : Option Session) (inactiveSessions : List Session) :
    SendSessionSource → Option SendCandidate
  | .active => activeSession.map (⟨·, true⟩)
  | .inactive index => inactiveSessions[index]?.map (⟨·, false⟩)

theorem designated_of_mem {activeSession : Option Session} {inactiveSessions : List Session}
    {candidate : SendSessionSource × Session}
    (h : candidate ∈ sendable sessionCanSend activeSession inactiveSessions) :
    designated activeSession inactiveSessions candidate.1 = some (candidateOf candidate) := by
  obtain ⟨source, session⟩ := candidate
  have hplace := (mem_sendable.mp h).2
  unfold designated candidateOf
  cases source with
  | active => simp_all
  | inactive index => simp_all

theorem bestSendSessionSource_eq_argmax {record : DeviceRecord K T}
    {activeSession : Option Session} {inactiveSessions : List Session}
    (hactive : Option.Rel (Corresponds encoding) record.activeSession activeSession)
    (hinactive : List.Forall₂ (Corresponds encoding) record.inactiveSessions inactiveSessions) :
    record.bestSendSessionSource =
      ((sendable sessionCanSend activeSession inactiveSessions).argmax
        (fun c => counterRank c.2)).map Prod.fst := by
  have hpairs := congrArg (List.argmax Prod.snd) (map_sendable
    (fun _ _ h => h.canSend) (fun _ _ h => h.sessionPriority) hactive hinactive)
  rw [Selection.argmax_map, Selection.argmax_map] at hpairs
  have hsources := congrArg (Option.map Prod.fst) hpairs
  rw [Option.map_map, Option.map_map] at hsources
  rw [bestSendSessionSource_eq]
  exact hsources

/-! The documented order. -/

/-- A session that can send is bidirectional if it can receive. -/
def bidirectional (session : Session) : Nat := if sessionCanReceive session then 1 else 0

/-- Bidirectional sessions first, among them the active one, then by the three counters. -/
def documentedRank (candidate : SendSessionSource × Session) :
    Nat ×ₗ Nat ×ₗ Nat ×ₗ Nat ×ₗ Nat :=
  toLex (bidirectional candidate.2,
    toLex (if candidate.1 = .active then bidirectional candidate.2 else 0,
      toLex (candidate.2.state.receivingChainMessageNumber,
        toLex (candidate.2.state.previousSendingChainMessageCount,
          candidate.2.state.sendingChainMessageNumber))))

/-- The candidate is ahead of every other by the documented order, which puts the earlier one
first where all the rest is the same. -/
def IsDocumentedChoice (activeSession : Option Session) (inactiveSessions : List Session)
    (choice : SendSessionSource × Session) : Prop :=
  choice ∈ sendable sessionCanSend activeSession inactiveSessions ∧
    ∀ other ∈ sendable sessionCanSend activeSession inactiveSessions,
      toLex (documentedRank other, OrderDual.toDual other.1.position) ≤
        toLex (documentedRank choice, OrderDual.toDual choice.1.position)

/-- Direction and receive count of a candidate. -/
def standing (candidate : SendSessionSource × Session) : Nat ×ₗ Nat :=
  toLex (bidirectional candidate.2, candidate.2.state.receivingChainMessageNumber)

/-- Sending count and place of a candidate. -/
def sentOrder (candidate : SendSessionSource × Session) : Nat ×ₗ Natᵒᵈ :=
  toLex (candidate.2.state.sendingChainMessageNumber, OrderDual.toDual candidate.1.position)

def previousCount (candidate : SendSessionSource × Session) : Nat :=
  candidate.2.state.previousSendingChainMessageCount

/-- A candidate of the best direction and receive count. -/
def Leads (activeSession : Option Session) (inactiveSessions : List Session)
    (candidate : SendSessionSource × Session) : Prop :=
  ∀ other ∈ sendable sessionCanSend activeSession inactiveSessions,
    standing other ≤ standing candidate

/-- The active session can send and receive. -/
def ActiveBidirectional (activeSession : Option Session) (active : Session) : Prop :=
  activeSession = some active ∧ sessionCanSend active = true ∧ sessionCanReceive active = true

/-- No inactive bidirectional session has greater counters than an active one. -/
def ActiveAhead (activeSession : Option Session) (inactiveSessions : List Session) : Prop :=
  ∀ active, ActiveBidirectional activeSession active → ∀ session ∈ inactiveSessions,
    sessionCanSend session = true → sessionCanReceive session = true →
      toLex (session.state.receivingChainMessageNumber, session.state.sendingChainMessageNumber) ≤
        toLex (active.state.receivingChainMessageNumber, active.state.sendingChainMessageNumber)

/-- Without an active bidirectional session: a leading session that is behind another one by its
previous count is behind one by its sending count too, or by its place. -/
def CountsAgree (activeSession : Option Session) (inactiveSessions : List Session) : Prop :=
  (∀ active, ¬ ActiveBidirectional activeSession active) →
    ∀ behind ∈ sendable sessionCanSend activeSession inactiveSessions,
      Leads activeSession inactiveSessions behind →
      (∃ ahead ∈ sendable sessionCanSend activeSession inactiveSessions,
        Leads activeSession inactiveSessions ahead ∧
        previousCount behind < previousCount ahead) →
      ∃ ahead ∈ sendable sessionCanSend activeSession inactiveSessions,
        Leads activeSession inactiveSessions ahead ∧
        previousCount behind < previousCount ahead ∧ sentOrder behind < sentOrder ahead

section

variable {activeSession : Option Session} {inactiveSessions : List Session}

theorem sendRank_lt_iff {first second : SendSessionSource × Session}
    (hfirst : sessionCanSend first.2 = true) (hsecond : sessionCanSend second.2 = true) :
    sendRank (candidateOf first) < sendRank (candidateOf second) ↔
      documentedRank first < documentedRank second := by
  unfold sendRank candidateOf documentedRank bidirectional
  simp only [hfirst, hsecond, Prod.Lex.toLex_lt_toLex, Bool.true_and, Bool.and_eq_true,
    decide_eq_true_eq, if_true]
  cases hreceive : sessionCanReceive first.2 <;> cases hreceive' : sessionCanReceive second.2 <;>
    by_cases hsource : first.1 = .active <;> by_cases hsource' : second.1 = .active <;>
    simp [hsource, hsource']

/-- The TypeScript client takes the documented choice. -/
theorem head?_eq_documented :
    (sortedSendableSessionCandidates activeSession inactiveSessions).head? =
      ((sendable sessionCanSend activeSession inactiveSessions).argmax documentedRank).map
        candidateOf := by
  rw [head?_sortedSendableSessionCandidates]
  congr 1
  apply Selection.argmax_congr
  intro first hfirst second hsecond
  exact sendRank_lt_iff (mem_sendable.mp hfirst).1 (mem_sendable.mp hsecond).1

theorem argmax_documentedRank {choice : SendSessionSource × Session} :
    (sendable sessionCanSend activeSession inactiveSessions).argmax documentedRank = some choice ↔
      IsDocumentedChoice activeSession inactiveSessions choice :=
  Selection.argmax_eq_some_iff sendable_positions

/-- The order of the Rust client: direction and receive count, then sending count and place. -/
theorem counterOrder_iff (first second : SendSessionSource × Session) :
    toLex (counterRank first.2, OrderDual.toDual first.1.position) ≤
        toLex (counterRank second.2, OrderDual.toDual second.1.position) ↔
      standing first < standing second ∨
        standing first = standing second ∧ sentOrder first ≤ sentOrder second := by
  unfold counterRank standing sentOrder bidirectional
  cases hreceive : sessionCanReceive first.2 <;> cases hreceive' : sessionCanReceive second.2 <;>
    simp only [Prod.Lex.toLex_le_toLex, Prod.Lex.toLex_lt_toLex, toLex_inj, Prod.mk.injEq] <;>
    grind

/-- The documented order where no active session is bidirectional. -/
theorem documentedOrder_iff (hactive : ∀ active, ¬ ActiveBidirectional activeSession active)
    {first second : SendSessionSource × Session}
    (hfirst : first ∈ sendable sessionCanSend activeSession inactiveSessions)
    (hsecond : second ∈ sendable sessionCanSend activeSession inactiveSessions) :
    toLex (documentedRank first, OrderDual.toDual first.1.position) ≤
        toLex (documentedRank second, OrderDual.toDual second.1.position) ↔
      standing first < standing second ∨
        standing first = standing second ∧
          (previousCount first < previousCount second ∨
            previousCount first = previousCount second ∧
              sentOrder first ≤ sentOrder second) := by
  have hbonus : ∀ candidate ∈ sendable sessionCanSend activeSession inactiveSessions,
      (if candidate.1 = .active then bidirectional candidate.2 else 0) = 0 := by
    intro candidate hmem
    obtain ⟨hsend, hplace⟩ := mem_sendable.mp hmem
    split
    · rename_i hsource
      rw [hsource] at hplace
      unfold bidirectional
      rw [if_neg]
      intro hreceive
      exact hactive candidate.2 ⟨hplace, hsend, hreceive⟩
    · rfl
  unfold documentedRank standing sentOrder previousCount
  rw [hbonus first hfirst, hbonus second hsecond]
  simp only [Prod.Lex.toLex_le_toLex, Prod.Lex.toLex_lt_toLex, toLex_inj, Prod.mk.injEq]
  grind

/-- With an active bidirectional session, which is the documented choice. -/
theorem documented_active {active : Session} (hactive : ActiveBidirectional activeSession active) :
    IsDocumentedChoice activeSession inactiveSessions (.active, active) := by
  obtain ⟨hsome, hsend, hreceive⟩ := hactive
  have hmem : (SendSessionSource.active, active) ∈
      sendable sessionCanSend activeSession inactiveSessions := mem_sendable.mpr ⟨hsend, hsome⟩
  refine ⟨hmem, ?_⟩
  intro other hother
  by_cases hsource : other.1 = .active
  · rw [eq_of_position hother hmem (congrArg SendSessionSource.position hsource)]
  · unfold documentedRank bidirectional
    simp only [hsource, hreceive, if_true, if_false, Prod.Lex.toLex_le_toLex,
      Prod.Lex.toLex_lt_toLex]
    split <;> simp

theorem counters_agree_active {active : Session}
    (hactive : ActiveBidirectional activeSession active) :
    (sendable sessionCanSend activeSession inactiveSessions).argmax (fun c => counterRank c.2) =
        some (.active, active) ↔
      ∀ session ∈ inactiveSessions, sessionCanSend session = true →
        sessionCanReceive session = true →
          toLex (session.state.receivingChainMessageNumber,
              session.state.sendingChainMessageNumber) ≤
            toLex (active.state.receivingChainMessageNumber,
              active.state.sendingChainMessageNumber) := by
  obtain ⟨hsome, hsend, hreceive⟩ := hactive
  have hmem : (SendSessionSource.active, active) ∈
      sendable sessionCanSend activeSession inactiveSessions := mem_sendable.mpr ⟨hsend, hsome⟩
  rw [Selection.argmax_eq_some_iff sendable_positions]
  constructor
  · rintro ⟨-, hall⟩ session hsession hcan hboth
    obtain ⟨index, hindex⟩ := List.mem_iff_getElem?.mp hsession
    have hle := hall (.inactive index, session) (mem_sendable.mpr ⟨hcan, hindex⟩)
    simp only [counterRank, hreceive, hboth, if_true, Prod.Lex.toLex_le_toLex,
      Prod.Lex.toLex_lt_toLex, toLex_inj, Prod.mk.injEq] at hle ⊢
    omega
  · intro hall
    refine ⟨hmem, ?_⟩
    intro other hother
    obtain ⟨hcan, hplace⟩ := mem_sendable.mp hother
    cases hsource : other.1 with
    | active =>
        rw [eq_of_position hother hmem (congrArg SendSessionSource.position hsource)]
    | inactive index =>
        rw [hsource] at hplace
        cases hboth : sessionCanReceive other.2 with
        | false =>
            simp [counterRank, hreceive, hboth, Prod.Lex.toLex_le_toLex, Prod.Lex.toLex_lt_toLex]
        | true =>
            have hle := hall other.2 (List.mem_of_getElem? hplace) hcan hboth
            simp only [counterRank, hreceive, hboth, if_true, Prod.Lex.toLex_le_toLex,
              Prod.Lex.toLex_lt_toLex, toLex_inj, Prod.mk.injEq, true_and, lt_self_iff_false,
              false_or] at hle ⊢
            rcases hle with hless | ⟨hreceived, hsent⟩
            · exact Or.inl (Or.inl hless)
            · rcases Nat.lt_or_eq_of_le hsent with hless | heq
              · exact Or.inl (Or.inr ⟨hreceived, hless⟩)
              · exact Or.inr ⟨⟨hreceived, heq⟩, Nat.zero_le _⟩

/-- Without one, where the two orders differ in the previous count alone. -/
theorem counters_agree_counts (hactive : ∀ active, ¬ ActiveBidirectional activeSession active)
    {choice taken : SendSessionSource × Session}
    (hchoice : IsDocumentedChoice activeSession inactiveSessions choice)
    (htaken : (sendable sessionCanSend activeSession inactiveSessions).argmax
      (fun c => counterRank c.2) = some taken) :
    taken = choice ↔ CountsAgree activeSession inactiveSessions := by
  obtain ⟨hchoiceMem, hchoiceMax⟩ := hchoice
  obtain ⟨htakenMem, htakenMax⟩ :=
    (Selection.argmax_eq_some_iff sendable_positions).mp htaken
  have hchoiceOrder := fun other hother =>
    (documentedOrder_iff hactive hother hchoiceMem).mp (hchoiceMax other hother)
  have htakenOrder := fun other hother =>
    (counterOrder_iff other taken).mp (htakenMax other hother)
  have hchoiceLeads : Leads activeSession inactiveSessions choice := by
    intro other hother
    rcases hchoiceOrder other hother with hless | ⟨heq, -⟩
    · exact le_of_lt hless
    · exact le_of_eq heq
  have htakenLeads : Leads activeSession inactiveSessions taken := by
    intro other hother
    rcases htakenOrder other hother with hless | ⟨heq, -⟩
    · exact le_of_lt hless
    · exact le_of_eq heq
  have hleadsSame : ∀ {first second},
      first ∈ sendable sessionCanSend activeSession inactiveSessions →
      second ∈ sendable sessionCanSend activeSession inactiveSessions →
      Leads activeSession inactiveSessions first → Leads activeSession inactiveSessions second →
      standing first = standing second :=
    fun hfirst hsecond hleads hleads' => le_antisymm (hleads' _ hfirst) (hleads _ hsecond)
  constructor
  · rintro rfl - behind hbehind hleads ⟨ahead, hahead, haheadLeads, hless⟩
    have hstanding := hleadsSame hbehind htakenMem hleads htakenLeads
    have hcount : previousCount behind < previousCount taken := by
      rcases hchoiceOrder ahead hahead with hlower | ⟨-, hcount | ⟨hcount, -⟩⟩
      · exact absurd hlower (not_lt_of_ge (le_of_eq (hleadsSame htakenMem hahead htakenLeads
          haheadLeads)))
      · exact hless.trans hcount
      · exact hless.trans_eq hcount
    refine ⟨taken, htakenMem, htakenLeads, hcount, ?_⟩
    rcases htakenOrder behind hbehind with hlower | ⟨-, hsent⟩
    · exact absurd hlower (not_lt_of_ge (le_of_eq hstanding.symm))
    · refine lt_of_le_of_ne hsent ?_
      intro hsame
      have hposition : behind.1.position = taken.1.position :=
        congrArg (fun order => OrderDual.ofDual (ofLex order).2) hsame
      rw [eq_of_position hbehind htakenMem hposition] at hcount
      exact absurd hcount (Nat.lt_irrefl _)
  · intro hcounts
    have hstanding := hleadsSame htakenMem hchoiceMem htakenLeads hchoiceLeads
    have hcount : previousCount taken = previousCount choice := by
      rcases hchoiceOrder taken htakenMem with hlower | ⟨-, hless | ⟨heq, -⟩⟩
      · exact absurd hlower (not_lt_of_ge (le_of_eq hstanding.symm))
      · obtain ⟨ahead, hahead, haheadLeads, -, hsent⟩ := hcounts hactive taken htakenMem htakenLeads
          ⟨choice, hchoiceMem, hchoiceLeads, hless⟩
        rcases htakenOrder ahead hahead with hlower | ⟨-, hle⟩
        · exact absurd hlower (not_lt_of_ge (le_of_eq (hleadsSame htakenMem hahead htakenLeads
            haheadLeads)))
        · exact absurd hsent (not_lt_of_ge hle)
      · exact heq
    have hsent : sentOrder taken = sentOrder choice := by
      apply le_antisymm
      · rcases hchoiceOrder taken htakenMem with hlower | ⟨-, hless | ⟨-, hle⟩⟩
        · exact absurd hlower (not_lt_of_ge (le_of_eq hstanding.symm))
        · exact absurd hcount (Nat.ne_of_lt hless)
        · exact hle
      · rcases htakenOrder choice hchoiceMem with hlower | ⟨-, hle⟩
        · exact absurd hlower (not_lt_of_ge (le_of_eq hstanding))
        · exact hle
    exact eq_of_position htakenMem hchoiceMem
      (congrArg (fun order => OrderDual.ofDual (ofLex order).2) hsent)

/-- The candidates of the two choices are one object only where the choices are one. -/
theorem candidateOf_inj {choice taken : SendSessionSource × Session}
    (hchoice : IsDocumentedChoice activeSession inactiveSessions choice)
    (htaken : (sendable sessionCanSend activeSession inactiveSessions).argmax
      (fun c => counterRank c.2) = some taken)
    (h : candidateOf choice = candidateOf taken) : taken = choice := by
  obtain ⟨hchoiceMem, hchoiceMax⟩ := hchoice
  obtain ⟨htakenMem, htakenMax⟩ :=
    (Selection.argmax_eq_some_iff sendable_positions).mp htaken
  obtain ⟨hsession, hflag⟩ := SendCandidate.mk.inj h
  have hactive : choice.1 = .active ↔ taken.1 = .active := decide_eq_decide.mp hflag
  have hrank : documentedRank taken = documentedRank choice := by
    unfold documentedRank
    rw [hsession]
    simp only [hactive]
  apply eq_of_position htakenMem hchoiceMem
  apply Nat.le_antisymm
  · have hle := htakenMax choice hchoiceMem
    rw [hsession, Prod.Lex.toLex_le_toLex] at hle
    exact (hle.resolve_left (lt_irrefl _)).2
  · have hle := hchoiceMax taken htakenMem
    rw [hrank, Prod.Lex.toLex_le_toLex] at hle
    exact (hle.resolve_left (lt_irrefl _)).2

/-- The two clients send on one session, the documented one, exactly where an active
bidirectional session has the greatest counters too, and where no previous count decides
against the sending counts. -/
theorem sendSelection_agrees_iff {record : DeviceRecord K T}
    (hactive : Option.Rel (Corresponds encoding) record.activeSession activeSession)
    (hinactive : List.Forall₂ (Corresponds encoding) record.inactiveSessions inactiveSessions) :
    ((sortedSendableSessionCandidates activeSession inactiveSessions).head? =
        record.bestSendSessionSource.bind (designated activeSession inactiveSessions) ∧
      ∀ source, record.bestSendSessionSource = some source → ∃ session,
        IsDocumentedChoice activeSession inactiveSessions (source, session)) ↔
    ActiveAhead activeSession inactiveSessions ∧
      CountsAgree activeSession inactiveSessions := by
  rw [head?_eq_documented, bestSendSessionSource_eq_argmax hactive hinactive]
  cases htaken : (sendable sessionCanSend activeSession inactiveSessions).argmax
      (fun c => counterRank c.2) with
  | none =>
      have hempty := List.argmax_eq_none.mp htaken
      rw [hempty]
      constructor
      · intro _
        constructor
        · rintro active ⟨hsome, hsend, -⟩
          have hmem : (SendSessionSource.active, active) ∈
              sendable sessionCanSend activeSession inactiveSessions :=
            mem_sendable.mpr ⟨hsend, hsome⟩
          rw [hempty] at hmem
          cases hmem
        · intro _ behind hbehind
          rw [hempty] at hbehind
          cases hbehind
      · intro _
        exact ⟨rfl, fun source h => by cases h⟩
  | some taken =>
      have htakenMem := List.argmax_mem htaken
      cases hdocumented : (sendable sessionCanSend activeSession inactiveSessions).argmax
          documentedRank with
      | none =>
          rw [List.argmax_eq_none.mp hdocumented] at htakenMem
          cases htakenMem
      | some choice =>
          have hchoice := argmax_documentedRank.mp hdocumented
          simp only [Option.map_some, Option.bind_some, designated_of_mem htakenMem,
            Option.some.injEq]
          have hsame : (candidateOf choice = candidateOf taken ∧ ∀ source, taken.1 = source →
              ∃ session, IsDocumentedChoice activeSession inactiveSessions (source, session)) ↔
              taken = choice := by
            constructor
            · rintro ⟨hcandidates, -⟩
              exact candidateOf_inj hchoice htaken hcandidates
            · rintro rfl
              exact ⟨rfl, fun source hsource => ⟨taken.2, hsource ▸ hchoice⟩⟩
          rw [hsame]
          by_cases hbidirectional : ∃ active, ActiveBidirectional activeSession active
          · obtain ⟨active, hboth⟩ := hbidirectional
            have hdocumentedActive : IsDocumentedChoice activeSession inactiveSessions
                (.active, active) := documented_active hboth
            have hactiveChoice := argmax_documentedRank.mpr hdocumentedActive
            have heq : choice = (.active, active) :=
              Option.some.inj (hdocumented.symm.trans hactiveChoice)
            have hcounters := @counters_agree_active _ inactiveSessions _ hboth
            rw [htaken, Option.some.injEq, ← heq] at hcounters
            rw [hcounters]
            constructor
            · intro hahead
              constructor
              · intro other hother
                cases hother.1.symm.trans hboth.1
                exact hahead
              · intro hnone
                exact absurd hboth (hnone active)
            · intro hconditions
              exact hconditions.1 active hboth
          · have hnone := not_exists.mp hbidirectional
            rw [counters_agree_counts hnone hchoice htaken]
            constructor
            · intro hcounts
              exact ⟨fun active hboth => absurd hboth (hnone active), hcounts⟩
            · intro hconditions
              exact hconditions.2

end

end

/-! Two sessions in both directions, the inactive one ahead by its receive count. -/

namespace TwoSessions

theorem nonzero : NeZero 256 := ⟨by decide⟩

attribute [local instance] nonzero

def encoding : KeyEncoding (Fin 256) where
  hex key := HexText.encode [UInt8.ofNat key]
  bytes key := [UInt8.ofNat key]
  hex_ne key h := by
    have hdecode := HexText.decode_encode [UInt8.ofNat key]
    rw [h] at hdecode
    cases hdecode

/-- A session that has received and sent so many messages on its current chains. -/
def session (name : String) (received sent : Nat) : NostrDoubleRatchet.Session (Fin 256) where
  name := name
  state :=
    { metadataPrivacyVersion := 2
      rootKey := 1
      theirCurrentNostrPublicKey := some ⟨2⟩
      theirNextNostrPublicKey := some ⟨3⟩
      ourPreviousNostrKey := none
      ourCurrentNostrKey := some ⟨⟨4⟩, 5⟩
      ourNextNostrKey := ⟨⟨6⟩, 7⟩
      receivingChainKey := some 8
      sendingChainKey := some 9
      sendingChainMessageNumber := sent
      receivingChainMessageNumber := received
      previousSendingChainMessageCount := 0
      skippedKeys := SortedMap.empty }

def other (name : String) (received sent : Nat) : Session where
  name := name
  state :=
    { metadataPrivacyVersion := some 2
      rootKey := encoding.bytes 1
      theirCurrentNostrPublicKey := some (encoding.hex 2)
      theirNextNostrPublicKey := encoding.hex 3
      ourCurrentNostrKey := some (encoding.keyPair ⟨⟨4⟩, 5⟩)
      ourNextNostrKey := encoding.keyPair ⟨⟨6⟩, 7⟩
      receivingChainKey := some (encoding.bytes 8)
      sendingChainKey := some (encoding.bytes 9)
      sendingChainMessageNumber := sent
      receivingChainMessageNumber := received
      previousSendingChainMessageCount := 0
      skippedKeys := InsertionMap.empty }

theorem corresponds (name : String) (received sent : Nat) :
    Corresponds encoding (session name received sent) (other name received sent) :=
  ⟨rfl, rfl, rfl, rfl, rfl, rfl, rfl, rfl, rfl, rfl, rfl⟩

/-- The record with one inactive session. -/
def record (active inactive : Nat × Nat) : DeviceRecord (Fin 256) String :=
  { DeviceRecord.new ⟨0⟩ 0 with
    activeSession := some (session "active" active.1 active.2)
    inactiveSessions := [session "inactive" inactive.1 inactive.2] }

/-- The Rust client leaves the active session, which the TypeScript client keeps. -/
theorem clients_disagree :
    Option.Rel (Corresponds encoding) (record (1, 1) (2, 1)).activeSession
        (some (other "active" 1 1)) ∧
      List.Forall₂ (Corresponds encoding) (record (1, 1) (2, 1)).inactiveSessions
        [other "inactive" 2 1] ∧
      (record (1, 1) (2, 1)).bestSendSessionSource = some (.inactive 0) ∧
      (sortedSendableSessionCandidates (some (other "active" 1 1)) [other "inactive" 2 1]).head? =
        some ⟨other "active" 1 1, true⟩ ∧
      (sortedSendableSessionCandidates (some (other "active" 1 1)) [other "inactive" 2 1]).head? ≠
        (record (1, 1) (2, 1)).bestSendSessionSource.bind
          (designated (some (other "active" 1 1)) [other "inactive" 2 1]) := by
  have hrust : (record (1, 1) (2, 1)).bestSendSessionSource = some (.inactive 0) := by
    decide +kernel
  have htypescript : (sortedSendableSessionCandidates (some (other "active" 1 1))
      [other "inactive" 2 1]).head? = some ⟨other "active" 1 1, true⟩ := by
    rw [head?_eq_documented, argmax_documentedRank.mpr (documented_active ⟨rfl, rfl, rfl⟩)]
    rfl
  refine ⟨.some (corresponds _ _ _), .cons (corresponds _ _ _) .nil, hrust, htypescript, ?_⟩
  rw [hrust, htypescript]
  intro hsame
  have hflag := congrArg (Option.map SendCandidate.active) hsame
  cases hflag

/-- With the receive counts the other way round they agree. -/
theorem clients_agree :
    (sortedSendableSessionCandidates (some (other "active" 2 1)) [other "inactive" 1 1]).head? =
        (record (2, 1) (1, 1)).bestSendSessionSource.bind
          (designated (some (other "active" 2 1)) [other "inactive" 1 1]) ∧
      ∀ source, (record (2, 1) (1, 1)).bestSendSessionSource = some source → ∃ session,
        IsDocumentedChoice (some (other "active" 2 1)) [other "inactive" 1 1]
          (source, session) := by
  refine (sendSelection_agrees_iff (.some (corresponds _ _ _))
    (.cons (corresponds _ _ _) .nil)).mpr ⟨?_, ?_⟩
  · rintro active ⟨hactive, -⟩ session hsession - -
    cases hactive
    cases List.mem_singleton.mp hsession
    decide +kernel
  · intro hnone
    exact absurd ⟨rfl, rfl, rfl⟩ (hnone (other "active" 2 1))

end TwoSessions

end TypeScript.SessionRecords

end NostrDoubleRatchet
