import NostrDoubleRatchet.SessionManager.Retention

/-!
Whom a message is fanned out to. The recipient's devices and the local owner's are collected
into one set, and every member of it gets a delivery or a gap. Only the second collection
leaves the local device out.
-/

namespace NostrDoubleRatchet

variable {K T : Type} [LinearOrder K]

/-- The devices a prepared send names: those it delivers to and those it lacks an invite of. -/
def RelayGap.device : RelayGap K → Option (OwnerPubkey K × DevicePubkey K)
  | .missingRoster _ => none
  | .missingDeviceInvite owner device => some (owner, device)

def RelayGap.owner : RelayGap K → Option (OwnerPubkey K)
  | .missingRoster owner => some owner
  | .missingDeviceInvite _ _ => none

def Delivery.address (delivery : Delivery K T) : OwnerPubkey K × DevicePubkey K :=
  (delivery.ownerPubkey, delivery.devicePubkey)

def TargetDevice.address (target : TargetDevice K) : OwnerPubkey K × DevicePubkey K :=
  (target.ownerPubkey, target.devicePubkey)

omit [LinearOrder K] in
theorem TargetDevice.key_injective : Function.Injective (TargetDevice.key (K := K)) := by
  rintro ⟨owner, device⟩ ⟨owner', device'⟩ h
  obtain ⟨howner, hdevice⟩ := Prod.mk.inj (congrArg ofLex h)
  cases howner
  cases hdevice
  rfl

def PreparedSend.addresses (prepared : PreparedSend K T) :
    List (OwnerPubkey K × DevicePubkey K) :=
  prepared.deliveries.map Delivery.address ++ prepared.relayGaps.filterMap RelayGap.device

namespace SessionManager

def Collected.addresses (collected : Collected K T) : List (OwnerPubkey K × DevicePubkey K) :=
  collected.deliveries.map Delivery.address ++ collected.relayGaps.filterMap RelayGap.device

/-- The roster of the owner is known and not empty. -/
def HasDevices (manager : SessionManager K T) (owner : OwnerPubkey K) : Prop :=
  ∃ roster, manager.roster owner = some roster ∧ roster.devices ≠ []

/-- A device of the owner that is authorized and not stale. -/
def Authorizes (manager : SessionManager K T) (owner : OwnerPubkey K) (device : DevicePubkey K) :
    Prop :=
  ∃ user record, manager.users.get? owner = some user ∧ record ∈ user.devices.values ∧
    record.devicePubkey = device ∧ record.authorized = true ∧ record.isStale = false

/-- The devices a message to `recipient` is meant for: the recipient's, and the local owner's
other ones. -/
def IsAddressee (manager : SessionManager K T) (recipient : OwnerPubkey K)
    (address : OwnerPubkey K × DevicePubkey K) : Prop :=
  address.2 ≠ manager.localDevicePubkey ∧ manager.Authorizes address.1 address.2 ∧
    (address.1 = recipient ∧ manager.HasDevices recipient ∨
      address.1 = manager.localOwnerPubkey ∧ (manager.roster manager.localOwnerPubkey).isSome)

/-! The collected targets. -/

theorem authorizes_iff {manager : SessionManager K T} {owner : OwnerPubkey K}
    {user : UserRecord K T} (huser : manager.users.get? owner = some user)
    (device : DevicePubkey K) :
    manager.Authorizes owner device ↔ device ∈ user.authorizedNonStaleDevices := by
  unfold Authorizes UserRecord.authorizedNonStaleDevices
  simp only [huser, List.mem_map, List.mem_filter, Bool.and_eq_true, Bool.not_eq_true',
    Option.some.injEq, exists_and_left, exists_eq_left']
  constructor
  · rintro ⟨record, hmem, hdevice, hauthorized, hfresh⟩
    exact ⟨record, ⟨hmem, hauthorized, hfresh⟩, hdevice⟩
  · rintro ⟨record, ⟨hmem, hauthorized, hfresh⟩, hdevice⟩
    exact ⟨record, hmem, hdevice, hauthorized, hfresh⟩

theorem mem_targetSet {targets : List (TargetDevice K)} {target : TargetDevice K} :
    target ∈ targetSet targets ↔ target ∈ targets := by
  unfold targetSet
  rw [SortedMap.mem_values]
  constructor
  · rintro ⟨key, hget⟩
    obtain ⟨found, hfound, heq⟩ := List.mem_map.mp (SortedMap.mem_of_get?_ofList hget)
    cases heq
    exact hfound
  · intro hmem
    have hkey : target.key ∈ (SortedMap.ofList
        (targets.map (fun target => (target.key, target)))).keys :=
      SortedMap.mem_keys_ofList.mpr
        (List.mem_map.mpr ⟨_, List.mem_map.mpr ⟨target, hmem, rfl⟩, rfl⟩)
    obtain ⟨found, hget⟩ := SortedMap.mem_keys.mp hkey
    obtain ⟨other, -, heq⟩ := List.mem_map.mp (SortedMap.mem_of_get?_ofList hget)
    obtain ⟨hsame, rfl⟩ := Prod.mk.inj heq
    rw [TargetDevice.key_injective hsame] at hget
    exact ⟨target.key, hget⟩

theorem mem_recipientTargets {manager : SessionManager K T} {recipient : OwnerPubkey K}
    {target : TargetDevice K} :
    target ∈ (manager.collectRecipientTargets recipient).1 ↔
      target.ownerPubkey = recipient ∧ manager.HasDevices recipient ∧
        manager.Authorizes recipient target.devicePubkey := by
  unfold collectRecipientTargets HasDevices roster
  cases huser : manager.users.get? recipient with
  | none => simp
  | some user =>
      cases hroster : user.roster with
      | none => simp [hroster]
      | some roster =>
          simp only [Option.all_some, Option.bind_some, hroster, List.isEmpty_iff,
            Option.some.injEq, exists_eq_left', authorizes_iff huser]
          split
          · rename_i hempty
            simp [hempty]
          · rename_i hdevices
            simp only [List.mem_map]
            constructor
            · rintro ⟨device, hmem, rfl⟩
              exact ⟨rfl, hdevices, hmem⟩
            · rintro ⟨howner, -, hmem⟩
              exact ⟨target.devicePubkey, hmem, by rw [← howner]⟩

theorem recipientGaps (manager : SessionManager K T) (recipient : OwnerPubkey K) :
    (manager.HasDevices recipient → (manager.collectRecipientTargets recipient).2 = []) ∧
      (¬ manager.HasDevices recipient →
        (manager.collectRecipientTargets recipient).2 = [.missingRoster recipient]) := by
  unfold collectRecipientTargets HasDevices roster
  cases huser : manager.users.get? recipient with
  | none => simp
  | some user =>
      cases hroster : user.roster with
      | none => simp [hroster]
      | some roster =>
          simp only [Option.all_some, Option.bind_some, hroster, List.isEmpty_iff,
            Option.some.injEq, exists_eq_left']
          constructor
          · intro hdevices
            rw [if_neg hdevices]
          · intro hempty
            rw [if_pos (not_not.mp hempty)]

theorem mem_siblingTargets {manager : SessionManager K T} {target : TargetDevice K} :
    target ∈ manager.collectLocalSiblingTargets ↔
      target.ownerPubkey = manager.localOwnerPubkey ∧
        (manager.roster manager.localOwnerPubkey).isSome ∧
        manager.Authorizes manager.localOwnerPubkey target.devicePubkey ∧
        target.devicePubkey ≠ manager.localDevicePubkey := by
  unfold collectLocalSiblingTargets roster
  cases huser : manager.users.get? manager.localOwnerPubkey with
  | none => simp
  | some user =>
      cases hroster : user.roster with
      | none => simp [hroster]
      | some roster =>
          simp only [hroster, Option.isNone_some, Bool.false_eq_true, if_false, Option.bind_some,
            Option.isSome_some, true_and, authorizes_iff huser, List.mem_map, List.mem_filter,
            decide_eq_true_eq]
          constructor
          · rintro ⟨device, ⟨hmem, hother⟩, rfl⟩
            exact ⟨rfl, hmem, hother⟩
          · rintro ⟨howner, hmem, hother⟩
            exact ⟨target.devicePubkey, ⟨hmem, hother⟩, by rw [← howner]⟩

/-! One target after the other. -/

section

variable [Primitives K T] [InvitePrimitives K T]

/-- Serving a target adds its address and writes to its record alone. -/
theorem prepareTarget_address {manager manager' : SessionManager K T} {target : TargetDevice K}
    {payload : T} {now : UnixSeconds} {refresh : Bool} {collected collected' : Collected K T}
    {rng rng' : Rng K}
    (h : prepareTarget payload now refresh manager target collected rng =
      (.ok collected', manager', rng')) :
    collected'.addresses.Perm (target.address :: collected.addresses) ∧
      collected'.relayGaps.filterMap RelayGap.owner =
        collected.relayGaps.filterMap RelayGap.owner ∧
      ∀ owner device, target.address ≠ (owner, device) →
        manager'.record? owner device = manager.record? owner device := by
  unfold prepareTarget at h
  split at h
  · cases h
  · rename_i result manager₁ rng₁ hcall
    cases h
    have hframe : ∀ record owner device, target.address ≠ (owner, device) →
        (manager.setDevice target.ownerPubkey target.devicePubkey record).record? owner device =
          manager.record? owner device := by
      intro record owner device hne
      rw [record?_setDevice, if_neg]
      rintro ⟨howner, hdevice⟩
      exact hne (Prod.ext howner hdevice)
    have hadded : ∀ added : RelayGap K, added.device = some target.address → added.owner = none →
        Collected.addresses { collected with relayGaps := collected.relayGaps ++ [added] } =
            collected.addresses ++ [target.address] ∧
          (collected.relayGaps ++ [added]).filterMap RelayGap.owner =
            collected.relayGaps.filterMap RelayGap.owner := by
      intro added hdevice howner
      simp [Collected.addresses, hdevice, howner]
    rcases prepareDeviceDelivery_cases hcall with ⟨rfl, hnone⟩ |
      ⟨delivery, response, record', hresult, rfl, -, -, hdelivered⟩
    · cases result with
      | some delivery => exact absurd rfl (hnone delivery)
      | none =>
          obtain ⟨haddresses, howners⟩ := hadded
            (.missingDeviceInvite target.ownerPubkey target.devicePubkey) rfl rfl
          refine ⟨?_, howners, hframe _⟩
          unfold Collected.add
          rw [haddresses]
          exact List.perm_append_singleton _ _
    · cases hresult
      obtain ⟨howner, hdevice⟩ := hdelivered.address
      have haddress : delivery.address = target.address := Prod.ext howner hdevice
      refine ⟨?_, rfl, hframe _⟩
      unfold Collected.add Collected.addresses
      simp only [List.map_append, List.map_cons, List.map_nil, haddress, List.append_assoc,
        List.singleton_append]
      exact List.perm_middle

/-- A fan-out names each of its targets once, and writes to no other record. -/
theorem prepareExplicitSend_addresses {manager manager' : SessionManager K T}
    {recipient : OwnerPubkey K} {targets : List (TargetDevice K)} {payload : T}
    {relayGaps : List (RelayGap K)} {refresh : Bool} {now : UnixSeconds} {rng rng' : Rng K}
    {output : PreparedSend K T}
    (h : manager.prepareExplicitSend recipient targets payload relayGaps refresh now rng =
      (.ok output, manager', rng')) :
    output.addresses.Perm
        ((targetSet targets).map TargetDevice.address ++ relayGaps.filterMap RelayGap.device) ∧
      (output.relayGaps.filterMap RelayGap.owner).Perm (relayGaps.filterMap RelayGap.owner) ∧
      ∀ owner device, (⟨owner, device⟩ : TargetDevice K) ∉ targets →
        manager'.record? owner device = manager.record? owner device := by
  unfold prepareExplicitSend at h
  split at h
  · cases h
  · rename_i collected manager₁ rng₁ hfan
    cases h
    obtain ⟨-, haddresses, howners, hframe⟩ := fanOut_ok
      (I := fun rest collected manager₁ => rest ⊆ targetSet targets ∧
        (rest.map TargetDevice.address ++ collected.addresses).Perm
          ((targetSet targets).map TargetDevice.address ++
            relayGaps.filterMap RelayGap.device) ∧
        collected.relayGaps.filterMap RelayGap.owner = relayGaps.filterMap RelayGap.owner ∧
        ∀ owner device, (⟨owner, device⟩ : TargetDevice K) ∉ targets →
          manager₁.record? owner device = manager.record? owner device)
      (by
        rintro target rest collected manager₁ rng₁ collected' manager₂ rng₂
          ⟨hsubset, haddresses, howners, hframe⟩ hcall
        obtain ⟨hadded, hkept, hwrites⟩ := prepareTarget_address hcall
        refine ⟨fun other hother => hsubset (List.mem_cons_of_mem _ hother), ?_,
          hkept.trans howners, ?_⟩
        · exact (hadded.append_left _).trans (List.perm_middle.trans haddresses)
        · intro owner device hother
          refine (hwrites owner device ?_).trans (hframe owner device hother)
          intro hsame
          have htarget : target = ⟨owner, device⟩ := by
            cases target
            cases hsame
            rfl
          exact hother (htarget ▸ mem_targetSet.mp (hsubset List.mem_cons_self)))
      ⟨fun _ hmem => hmem, List.Perm.refl _, rfl, fun _ _ _ => rfl⟩ hfan
    have hsorted : (collected.relayGaps.mergeSort RelayGap.le).Perm collected.relayGaps :=
      List.mergeSort_perm _ _
    refine ⟨?_, ?_, hframe⟩
    · exact ((hsorted.filterMap RelayGap.device).append_left _).trans haddresses
    · rw [← howners]
      exact hsorted.filterMap RelayGap.owner

/-- What a prepared send names: every addressee once, the recipient if its devices are not known,
and never the sending device. -/
structure FansOut (manager manager' : SessionManager K T) (recipient : OwnerPubkey K)
    (output : PreparedSend K T) : Prop where
  nodup : output.addresses.Nodup
  mem_addresses : ∀ address, address ∈ output.addresses ↔ manager.IsAddressee recipient address
  knownRoster : manager.HasDevices recipient → output.relayGaps.filterMap RelayGap.owner = []
  missingRoster : ¬ manager.HasDevices recipient →
    output.relayGaps.filterMap RelayGap.owner = [recipient]
  notToSelf : ∀ delivery ∈ output.deliveries, delivery.devicePubkey ≠ manager.localDevicePubkey
  ownRecord : ∀ owner, manager'.record? owner manager.localDevicePubkey =
    manager.record? owner manager.localDevicePubkey

/-- The local device is left out of a message to the recipient unless it is one of the
recipient's devices: only the collection of the local owner's other devices skips it. -/
theorem prepareSend_fansOut_iff {manager manager' : SessionManager K T}
    {recipient : OwnerPubkey K} {payload : T} {now : UnixSeconds} {rng rng' : Rng K}
    {output : PreparedSend K T}
    (h : manager.prepareSend recipient payload now rng = (.ok output, manager', rng')) :
    manager.FansOut manager' recipient output ↔
      ¬ (manager.HasDevices recipient ∧
        manager.Authorizes recipient manager.localDevicePubkey) := by
  unfold prepareSend prepareSendInner at h
  dsimp only at h
  rw [if_pos rfl] at h
  obtain ⟨haddresses, howners, hframe⟩ := prepareExplicitSend_addresses h
  obtain ⟨hknown, hmissing⟩ := manager.recipientGaps recipient
  have hnogaps : (manager.collectRecipientTargets recipient).2.filterMap RelayGap.device = [] := by
    by_cases hdevices : manager.HasDevices recipient
    · rw [hknown hdevices]
      rfl
    · rw [hmissing hdevices]
      rfl
  rw [hnogaps, List.append_nil] at haddresses
  have hmem : ∀ owner device, (owner, device) ∈ output.addresses ↔
      owner = recipient ∧ manager.HasDevices recipient ∧ manager.Authorizes recipient device ∨
      owner = manager.localOwnerPubkey ∧ (manager.roster manager.localOwnerPubkey).isSome ∧
        manager.Authorizes manager.localOwnerPubkey device ∧
        device ≠ manager.localDevicePubkey := by
    intro owner device
    rw [haddresses.mem_iff, List.mem_map]
    constructor
    · rintro ⟨target, htarget, heq⟩
      cases heq
      rw [mem_targetSet, List.mem_append, mem_recipientTargets, mem_siblingTargets] at htarget
      exact htarget
    · intro hside
      refine ⟨⟨owner, device⟩, ?_, rfl⟩
      rw [mem_targetSet, List.mem_append, mem_recipientTargets, mem_siblingTargets]
      exact hside
  constructor
  · rintro hfans ⟨hdevices, hlocal⟩
    have hself : (recipient, manager.localDevicePubkey) ∈ output.addresses :=
      (hmem _ _).mpr (Or.inl ⟨rfl, hdevices, hlocal⟩)
    exact ((hfans.mem_addresses _).mp hself).1 rfl
  · intro hspared
    have hnotLocal : ∀ owner, (owner, manager.localDevicePubkey) ∉ output.addresses := by
      intro owner hself
      rcases (hmem _ _).mp hself with ⟨-, hdevices, hlocal⟩ | ⟨-, -, -, hother⟩
      · exact hspared ⟨hdevices, hlocal⟩
      · exact hother rfl
    refine ⟨?_, ?_, ?_, ?_, ?_, ?_⟩
    · refine haddresses.nodup_iff.mpr ((nodup_targetSet _).map ?_)
      rintro ⟨owner, device⟩ ⟨owner', device'⟩ hsame
      cases hsame
      rfl
    · rintro ⟨owner, device⟩
      constructor
      · intro haddress
        refine ⟨?_, ?_⟩
        · rintro rfl
          exact hnotLocal owner haddress
        · rcases (hmem owner device).mp haddress with ⟨rfl, hdevices, hlisted⟩ |
            ⟨rfl, hroster, hlisted, -⟩
          · exact ⟨hlisted, Or.inl ⟨rfl, hdevices⟩⟩
          · exact ⟨hlisted, Or.inr ⟨rfl, hroster⟩⟩
      · rintro ⟨hother, hlisted, ⟨howner, hdevices⟩ | ⟨howner, hroster⟩⟩
        · rw [howner] at hlisted
          exact (hmem _ _).mpr (Or.inl ⟨howner, hdevices, hlisted⟩)
        · rw [howner] at hlisted
          exact (hmem _ _).mpr (Or.inr ⟨howner, hroster, hlisted, hother⟩)
    · intro hdevices
      rw [hknown hdevices] at howners
      exact List.perm_nil.mp howners
    · intro hdevices
      rw [hmissing hdevices] at howners
      exact List.perm_singleton.mp howners
    · intro delivery hdelivery hself
      refine hnotLocal delivery.ownerPubkey ?_
      rw [← hself]
      exact List.mem_append_left _ (List.mem_map.mpr ⟨delivery, hdelivery, rfl⟩)
    · intro owner
      apply hframe
      intro htarget
      apply hnotLocal owner
      rw [haddresses.mem_iff]
      exact List.mem_map.mpr ⟨⟨owner, manager.localDevicePubkey⟩, mem_targetSet.mpr htarget, rfl⟩

end

end SessionManager

/-! A message to the own owner, whose roster lists the sending device. -/

namespace Symbolic

def aliceDevice : DevicePubkey KeyTerm := ⟨.point (.secret 1)⟩

def ownRoster : List (Operation KeyTerm TextTerm) :=
  [.applyLocalRoster ⟨0, [⟨aliceDevice, 0⟩]⟩, .ensureLocalInvite 0]

/-- Alice's device accepts its own invite and sends itself the message. -/
theorem send_to_self : SessionManager.new alice (.secret 1) = .ok emptyManager ∧
    ∃ output manager' rng',
    (emptyManager.run numbered ownRoster).1.prepareSend alice (.bytes "hello") 0 numbered =
      (.ok output, manager', rng') ∧
    output.addresses = [(alice, aliceDevice)] ∧
    (manager'.record? alice aliceDevice).bind DeviceRecord.bestSendSessionSource ≠ none ∧
    ¬ (emptyManager.run numbered ownRoster).1.FansOut manager' alice output := by
  refine ⟨rfl, ?_⟩
  generalize hcall : (emptyManager.run numbered ownRoster).1.prepareSend alice (.bytes "hello") 0
    numbered = outcome
  have hfacts : outcome.1.toOption.map PreparedSend.addresses = some [(alice, aliceDevice)] ∧
      (outcome.2.1.record? alice aliceDevice).bind DeviceRecord.bestSendSessionSource ≠ none := by
    rw [← hcall]
    decide +kernel
  obtain ⟨result, manager', rng'⟩ := outcome
  cases result with
  | error e => cases hfacts.1
  | ok output =>
      have haddresses : output.addresses = [(alice, aliceDevice)] := Option.some.inj hfacts.1
      refine ⟨output, manager', rng', rfl, haddresses, hfacts.2, ?_⟩
      intro hfans
      have hself : (alice, aliceDevice) ∈ output.addresses := by
        rw [haddresses]
        exact List.mem_singleton.mpr rfl
      exact ((hfans.mem_addresses _).mp hself).1 (by decide +kernel)

/-- A message to Bob leaves Alice's device out. -/
theorem send_to_bob : ∃ output manager' rng',
    (emptyManager.run numbered (imports 1)).1.prepareSend bob (.bytes "hello") 0 numbered =
      (.ok output, manager', rng') ∧
    (emptyManager.run numbered (imports 1)).1.FansOut manager' bob output := by
  generalize hcall : (emptyManager.run numbered (imports 1)).1.prepareSend bob (.bytes "hello") 0
    numbered = outcome
  have hok : outcome.1.isOk = true := by
    rw [← hcall]
    decide +kernel
  obtain ⟨result, manager', rng'⟩ := outcome
  cases result with
  | error e => cases hok
  | ok output =>
      refine ⟨output, manager', rng', rfl, ?_⟩
      refine (SessionManager.prepareSend_fansOut_iff hcall).mpr ?_
      rintro ⟨-, hauthorizes⟩
      have hlisted : ((emptyManager.run numbered (imports 1)).1.users.get? bob).map
          UserRecord.authorizedNonStaleDevices = some [bobDevice] := by
        decide +kernel
      obtain ⟨user, huser, hdevices⟩ := Option.map_eq_some_iff.mp hlisted
      rw [SessionManager.authorizes_iff huser, hdevices] at hauthorizes
      exact absurd hauthorizes (by decide +kernel)

end Symbolic

end NostrDoubleRatchet
