import NostrDoubleRatchet.TypeScript.SessionRecords

/-!
The round trip of a user record through its storage, over every run of the record's operations:
which records a restart gives back.
-/

namespace NostrDoubleRatchet.TypeScript.SessionRecords

/-! The state of a session. -/

theorem mapM_map_of_left_inverse {α β : Type} {f : α → β} {g : β → Option α}
    (h : ∀ a, g (f a) = some a) (l : List α) : (l.map f).mapM g = some l := by
  induction l with
  | nil => rfl
  | cons a rest ih => simp [List.mapM_cons, h, ih]

theorem optionally_map {α β : Type} {f : α → β} {g : β → Option α} (h : ∀ a, g (f a) = some a)
    (value : Option α) : optionally g (value.map f) = some value := by
  cases value with
  | none => rfl
  | some value => simp [optionally, h]

theorem deserializeKeyPair_serialize (key : KeyPair) :
    deserializeKeyPair ⟨key.publicKey, HexText.encode key.privateKey⟩ = some key := by
  simp [deserializeKeyPair, HexText.decode_encode]

theorem deserializeSkippedKeys_serialize (keys : SkippedKeys) :
    deserializeSkippedKeys ⟨keys.headerKeys.map HexText.encode,
      keys.messageKeys.entries.map (fun key => (key.1, HexText.encode key.2))⟩ = some keys := by
  have hkeys : ∀ key : String × Bytes,
      (do pure (key.1, ← HexText.decode (HexText.encode key.2)) : Option (String × Bytes)) =
        some key := by
    intro key
    rw [HexText.decode_encode]
    rfl
  unfold deserializeSkippedKeys
  rw [mapM_map_of_left_inverse HexText.decode_encode, mapM_map_of_left_inverse hkeys]
  change some (SkippedKeys.mk keys.headerKeys (fromEntries keys.messageKeys.entries)) = _
  rw [fromEntries, InsertionMap.foldl_set_entries]

/-- A session state is read back as it was. -/
theorem deserializeSessionState_serialize (state : SessionState) :
    deserializeSessionState (serializeSessionState state) = some state := by
  have hskipped : ∀ entry : String × SkippedKeys,
      (do pure (entry.1, ← deserializeSkippedKeys ⟨entry.2.headerKeys.map HexText.encode,
        entry.2.messageKeys.entries.map (fun key => (key.1, HexText.encode key.2))⟩) :
          Option (String × SkippedKeys)) = some entry := by
    intro entry
    rw [deserializeSkippedKeys_serialize]
    rfl
  unfold deserializeSessionState serializeSessionState
  dsimp only
  rw [HexText.decode_encode, optionally_map deserializeKeyPair_serialize,
    deserializeKeyPair_serialize, optionally_map HexText.decode_encode,
    optionally_map HexText.decode_encode, mapM_map_of_left_inverse hskipped]
  change some { state with skippedKeys := fromEntries state.skippedKeys.entries } = _
  rw [fromEntries, InsertionMap.foldl_set_entries]

theorem deserializeStoredSession_serialize {session : Session} (h : session.Current) :
    deserializeStoredSession (serializeSession session) = some session := by
  unfold deserializeStoredSession serializeSession
  dsimp only
  rw [deserializeSessionState_serialize]
  change (if session.state.metadataPrivacyVersion ≠ some METADATA_PRIVACY_VERSION then none
    else some session) = _
  have hversion : session.state.metadataPrivacyVersion = some METADATA_PRIVACY_VERSION := h
  rw [if_neg (not_not_intro hversion)]

/-! The roster. -/

/-- No time of the roster is infinite. -/
def AppKeys.Finite (appKeys : AppKeys) : Prop :=
  (∀ device ∈ appKeys.getAllDevices, ∀ negative, device.createdAt ≠ some (.infinity negative)) ∧
    ∀ labels ∈ appKeys.deviceLabels.values, ∀ negative, labels.updatedAt ≠ some (.infinity negative)

theorem jsonNumber_round_trip (time : Option JsNumber) :
    (jsonNumber time).map JsNumber.integer = time ↔ ∀ negative, time ≠ some (.infinity negative) := by
  cases time with
  | none => simp [jsonNumber]
  | some time =>
      cases time with
      | integer value => simp [jsonNumber]
      | infinity negative => simp [jsonNumber]

/-- A device, or the labels of one, as they come back. -/
def restoredDevice (device : RosterDevice) : RosterDevice :=
  { device with createdAt := (jsonNumber device.createdAt).map .integer }

def restoredLabels (labels : DeviceLabels) : DeviceLabels :=
  { labels with updatedAt := (jsonNumber labels.updatedAt).map .integer }

theorem entries_foldl_map {β : Type} (m : InsertionMap String β) (f : β → β) :
    ((m.entries.map (fun entry => (entry.1, f entry.2))).foldl
      (fun map entry => map.set entry.1 entry.2) InsertionMap.empty).entries =
        m.entries.map (fun entry => (entry.1, f entry.2)) := by
  rw [InsertionMap.entries_foldl_set]
  · rfl
  · change ((m.entries.map (fun entry => (entry.1, f entry.2))).map Prod.fst).Nodup
    rw [List.map_map]
    exact m.nodup

theorem entries_devices_deserialize (appKeys : AppKeys) :
    (AppKeys.deserialize appKeys.serialize).devices.entries =
      appKeys.devices.entries.map (fun entry => (entry.1, restoredDevice entry.2)) := by
  rw [← entries_foldl_map]
  change (setDevices _ InsertionMap.empty).entries = _
  unfold setDevices AppKeys.serialize AppKeys.getAllDevices InsertionMap.values
  dsimp only
  rw [List.map_map, List.map_map, List.foldl_map, List.foldl_map]
  congr 1
  refine List.foldl_ext _ _ _ ?_
  intro map entry hmem
  rw [appKeys.keyed entry hmem]
  rfl

theorem entries_labels_deserialize (appKeys : AppKeys) :
    (AppKeys.deserialize appKeys.serialize).deviceLabels.entries =
      appKeys.deviceLabels.entries.map (fun entry => (entry.1, restoredLabels entry.2)) := by
  rw [← entries_foldl_map]
  unfold AppKeys.deserialize AppKeys.serialize AppKeys.new
  dsimp only
  rw [List.map_map]
  rfl

theorem AppKeys.ext_entries {appKeys other : AppKeys}
    (hdevices : appKeys.devices.entries = other.devices.entries)
    (hlabels : appKeys.deviceLabels.entries = other.deviceLabels.entries) : appKeys = other := by
  obtain ⟨devices, deviceLabels, keyed⟩ := appKeys
  obtain ⟨otherDevices, otherLabels, otherKeyed⟩ := other
  obtain rfl := InsertionMap.eq_of_entries hdevices
  obtain rfl := InsertionMap.eq_of_entries hlabels
  rfl

theorem map_eq_self_iff {α : Type} {f : α → α} {l : List α} :
    l.map f = l ↔ ∀ a ∈ l, f a = a := by
  nth_rewrite 2 [← List.map_id l]
  rw [List.map_inj_left]
  rfl

/-- A roster comes back exactly where its times are finite. -/
theorem deserialize_serialize_iff (appKeys : AppKeys) :
    AppKeys.deserialize appKeys.serialize = appKeys ↔ appKeys.Finite := by
  have hdevice : ∀ entry : String × RosterDevice, (entry.1, restoredDevice entry.2) = entry ↔
      ∀ negative, entry.2.createdAt ≠ some (.infinity negative) := by
    intro entry
    rw [← jsonNumber_round_trip]
    simp [Prod.ext_iff, restoredDevice, RosterDevice.ext_iff]
  have hlabel : ∀ entry : String × DeviceLabels, (entry.1, restoredLabels entry.2) = entry ↔
      ∀ negative, entry.2.updatedAt ≠ some (.infinity negative) := by
    intro entry
    rw [← jsonNumber_round_trip]
    simp [Prod.ext_iff, restoredLabels, DeviceLabels.ext_iff]
  constructor
  · intro h
    have hdevices := congrArg (fun keys => keys.devices.entries) h
    have hlabels := congrArg (fun keys => keys.deviceLabels.entries) h
    rw [entries_devices_deserialize, map_eq_self_iff] at hdevices
    rw [entries_labels_deserialize, map_eq_self_iff] at hlabels
    refine ⟨?_, ?_⟩
    · intro device hmem
      obtain ⟨entry, hentry, rfl⟩ := List.mem_map.mp hmem
      exact (hdevice entry).mp (hdevices entry hentry)
    · intro labels hmem
      obtain ⟨entry, hentry, rfl⟩ := List.mem_map.mp hmem
      exact (hlabel entry).mp (hlabels entry hentry)
  · rintro ⟨hdevices, hlabels⟩
    apply AppKeys.ext_entries
    · rw [entries_devices_deserialize, map_eq_self_iff]
      intro entry hentry
      exact (hdevice entry).mpr (hdevices entry.2 (List.mem_map_of_mem hentry))
    · rw [entries_labels_deserialize, map_eq_self_iff]
      intro entry hentry
      exact (hlabel entry).mpr (hlabels entry.2 (List.mem_map_of_mem hentry))

/-! The sessions of a device. -/

namespace DeviceRecordActor

/-- The sessions of a device have names of their own, and the version of private handshakes. -/
structure Sound (device : DeviceRecordActor) : Prop where
  names : (device.sessions.map Session.name).Nodup
  current : ∀ session ∈ device.sessions, session.Current

theorem sound_new (deviceId : String) (createdAt : Nat) : (new deviceId createdAt).Sound := by
  refine ⟨List.nodup_nil, ?_⟩
  intro session hmem
  cases hmem

/-- Fewer sessions. -/
theorem Sound.of_sublist {device next : DeviceRecordActor} (h : device.Sound)
    (hsub : next.sessions.Sublist device.sessions) : next.Sound :=
  ⟨h.names.sublist (hsub.map _), fun session hmem => h.current session (hsub.subset hmem)⟩

theorem sound_trim {device : DeviceRecordActor} (h : device.Sound) :
    device.trimInactiveSessions.Sound :=
  h.of_sublist ((List.Sublist.refl _).append (List.take_sublist _ _))

theorem sound_deactivate {device : DeviceRecordActor} (h : device.Sound) :
    device.deactivateCurrentSession.Sound := by
  unfold deactivateCurrentSession
  split
  · exact h
  · rename_i session hactive
    have hsessions : device.sessions = session :: device.inactiveSessions := by
      unfold sessions
      rw [hactive]
      rfl
    have hperm : (device.inactiveSessions ++ [session]).Perm device.sessions := by
      rw [hsessions]
      exact List.perm_append_singleton _ _
    refine ⟨?_, ?_⟩
    · exact (hperm.map Session.name).nodup_iff.mpr h.names
    · intro other hmem
      exact h.current other (hperm.mem_iff.mp hmem)

theorem sound_setSession {device : DeviceRecordActor} (h : device.Sound) {session : Session}
    (hcurrent : session.Current) : (device.setSession session).Sound := by
  have hsessions : (device.setSession session).sessions =
      device.sessions.map (fun old => if old.name = session.name then session else old) := by
    unfold sessions setSession
    rw [List.map_append, Option.toList_map]
  refine ⟨?_, ?_⟩
  · rw [hsessions, List.map_map]
    have hname : (Session.name ∘ fun old : Session =>
        if old.name = session.name then session else old) = Session.name := by
      funext old
      simp only [Function.comp_apply]
      split
      · rename_i heq
        exact heq.symm
      · rfl
    rw [hname]
    exact h.names
  · intro other hmem
    rw [hsessions] at hmem
    obtain ⟨old, hold, rfl⟩ := List.mem_map.mp hmem
    split
    · exact hcurrent
    · exact h.current old hold

/-- A session at the front of the others, without those of its name. -/
theorem sound_cons {device : DeviceRecordActor} (h : device.Sound) {session : Session}
    (hcurrent : session.Current) {rest : List Session} (hrest : rest.Sublist device.sessions)
    (hname : ∀ other ∈ rest, other.name ≠ session.name) :
    ((session :: rest).map Session.name).Nodup ∧ ∀ other ∈ session :: rest, other.Current := by
  refine ⟨?_, ?_⟩
  · rw [List.map_cons, List.nodup_cons]
    refine ⟨?_, h.names.sublist (hrest.map _)⟩
    intro hmem
    obtain ⟨other, hother, heq⟩ := List.mem_map.mp hmem
    exact hname other hother heq
  · intro other hmem
    rcases List.mem_cons.mp hmem with rfl | hmem
    · exact hcurrent
    · exact h.current other (hrest.subset hmem)

theorem sound_promoteToActive {device : DeviceRecordActor} (h : device.Sound) {next : Session}
    (hcurrent : next.Current) (force preferActive : Bool) :
    (device.promoteToActive next force preferActive).Sound := by
  have hrest : (device.inactiveSessions.filter (·.name ≠ next.name)).Sublist device.sessions :=
    (List.filter_sublist).trans (List.sublist_append_right _ _)
  have hnames : ∀ other ∈ device.inactiveSessions.filter (·.name ≠ next.name),
      other.name ≠ next.name := by
    intro other hmem
    simpa using (List.mem_filter.mp hmem).2
  have hfront := sound_cons h hcurrent hrest hnames
  unfold promoteToActive
  dsimp only
  split
  · apply sound_trim
    exact ⟨hfront.1, hfront.2⟩
  · rename_i current hactive
    have hsessions : device.sessions = current :: device.inactiveSessions := by
      unfold sessions
      rw [hactive]
      rfl
    split
    · exact ⟨hfront.1, hfront.2⟩
    · rename_i hdiffers
      have hboth : (current :: device.inactiveSessions.filter (·.name ≠ next.name)).Sublist
          device.sessions := by
        rw [hsessions]
        exact List.filter_sublist.cons_cons _
      have hbothNames : ∀ other ∈ current :: device.inactiveSessions.filter
          (·.name ≠ next.name), other.name ≠ next.name := by
        intro other hmem
        rcases List.mem_cons.mp hmem with rfl | hmem
        · exact hdiffers
        · exact hnames other hmem
      have hall := sound_cons h hcurrent hboth hbothNames
      split
      · apply sound_trim
        exact ⟨hall.1, hall.2⟩
      · apply sound_trim
        have hswap : (next :: current :: device.inactiveSessions.filter
            (·.name ≠ next.name)).Perm (current :: next :: device.inactiveSessions.filter
              (·.name ≠ next.name)) := List.Perm.swap _ _ _
        have hshape : DeviceRecordActor.sessions { device with
            inactiveSessions := next :: device.inactiveSessions.filter (·.name ≠ next.name) } =
            current :: next :: device.inactiveSessions.filter (·.name ≠ next.name) := by
          unfold sessions
          rw [hactive]
          rfl
        refine ⟨?_, ?_⟩
        · rw [hshape]
          exact (hswap.map Session.name).nodup_iff.mp hall.1
        · intro other hmem
          rw [hshape] at hmem
          exact hall.2 other (hswap.mem_iff.mpr hmem)

theorem sound_installSession {device : DeviceRecordActor} (h : device.Sound) {session : Session}
    (hcurrent : session.Current) (inactive preferActive : Bool) :
    (device.installSession session inactive preferActive).Sound := by
  have hpruned : (device.pruneDuplicateSessions session).Sound := by
    refine h.of_sublist (List.Sublist.append ?_ List.filter_sublist)
    change (device.activeSession.filter _).toList.Sublist device.activeSession.toList
    cases device.activeSession with
    | none => exact List.Sublist.refl _
    | some active =>
        rw [Option.filter_some]
        split
        · exact List.Sublist.refl _
        · exact List.nil_sublist _
  have hnames : ∀ other ∈ (device.pruneDuplicateSessions session).sessions,
      other.name ≠ session.name := by
    intro other hmem
    rcases List.mem_append.mp hmem with hmem | hmem
    · have hactive : device.activeSession.filter (fun old => decide (old.name ≠ session.name)) =
          some other := Option.mem_toList.mp hmem
      simpa using (Option.filter_eq_some_iff.mp hactive).2
    · simpa using (List.mem_filter.mp hmem).2
  have hready : ∀ {installed : DeviceRecordActor}, installed.Sound →
      (if installed.activeSession.isSome then { installed with state := .sessionReady }
        else installed).Sound := by
    intro installed hinstalled
    split
    · exact ⟨hinstalled.names, hinstalled.current⟩
    · exact hinstalled
  cases inactive with
  | false => exact hready (sound_promoteToActive hpruned hcurrent false preferActive)
  | true =>
      refine hready (sound_trim ?_)
      have hall := sound_cons hpruned hcurrent (List.Sublist.refl _) hnames
      have hperm : ((device.pruneDuplicateSessions session).activeSession.toList ++ session ::
          (device.pruneDuplicateSessions session).inactiveSessions).Perm
          (session :: (device.pruneDuplicateSessions session).sessions) := List.perm_middle
      refine ⟨(hperm.map Session.name).nodup_iff.mpr hall.1, ?_⟩
      intro other hmem
      exact hall.2 other (hperm.mem_iff.mp hmem)

end DeviceRecordActor

/-- What `Session.ts` promises: the version of a state stays, and a rumor has an id. -/
structure Ratchet.Keeps (ratchet : Ratchet) : Prop where
  received : ∀ state event, (ratchet.receiveEvent state event).1.metadataPrivacyVersion =
    state.metadataPrivacyVersion
  sent : ∀ state rumor deviceId, (ratchet.sendEvent state rumor deviceId).1.metadataPrivacyVersion =
    state.metadataPrivacyVersion
  rumor : ∀ state event rumor, (ratchet.receiveEvent state event).2 = some rumor → rumor.id ≠ ""

namespace DeviceRecordActor

variable {ratchet : Ratchet}

theorem sound_receiveFrom (hratchet : ratchet.Keeps) (event : VerifiedEvent)
    (skipped seen : List String) (sessions : List Session) {device : DeviceRecordActor}
    (h : device.Sound) (hcurrent : ∀ session ∈ sessions, session.Current) :
    (device.receiveFrom ratchet event skipped seen sessions).1.Sound ∧
      ∀ rumor, (device.receiveFrom ratchet event skipped seen sessions).2 = some rumor →
        rumor.id ≠ "" := by
  induction sessions generalizing seen device with
  | nil =>
      refine ⟨h, ?_⟩
      intro rumor hnone
      cases hnone
  | cons session rest ih =>
      have hrest : ∀ other ∈ rest, other.Current :=
        fun other hmem => hcurrent other (List.mem_cons_of_mem _ hmem)
      have hnext : (Session.mk session.name
          (ratchet.receiveEvent session.state event).1).Current :=
        (hratchet.received session.state event).trans (hcurrent session List.mem_cons_self)
      rw [receiveFrom]
      split
      · exact ih seen h hrest
      · split
        · exact ih _ h hrest
        · have hset := sound_setSession h hnext
          dsimp only
          split
          · exact ih _ hset hrest
          · rename_i rumor hrumor
            have hpromoted := sound_promoteToActive hset hnext true false
            refine ⟨⟨hpromoted.names, hpromoted.current⟩, ?_⟩
            intro other hother
            obtain rfl := Option.some.inj hother
            exact hratchet.rumor _ _ _ hrumor

theorem sound_sendWith (hratchet : ratchet.Keeps) (rumor : Rumor)
    (candidates : List SendCandidate) {device : DeviceRecordActor} (h : device.Sound)
    (hcurrent : ∀ candidate ∈ candidates, candidate.session.Current) :
    (device.sendWith ratchet rumor candidates).1.Sound := by
  induction candidates generalizing device with
  | nil => exact h
  | cons candidate rest ih =>
      have hnext : (Session.mk candidate.session.name
          (ratchet.sendEvent candidate.session.state rumor device.deviceId).1).Current :=
        (hratchet.sent candidate.session.state rumor device.deviceId).trans
          (hcurrent candidate List.mem_cons_self)
      have hset := sound_setSession h hnext
      rw [sendWith]
      dsimp only
      split
      · exact ih hset (fun other hmem => hcurrent other (List.mem_cons_of_mem _ hmem))
      · dsimp only
        split
        · exact hset
        · exact sound_promoteToActive hset hnext true false

/-- The candidates are sessions of the device. -/
theorem mem_sessions_of_candidate {device : DeviceRecordActor} {candidate : SendCandidate}
    (h : candidate ∈ sortedSendableSessionCandidates device.activeSession
      device.inactiveSessions) : candidate.session ∈ device.sessions := by
  have hmem := (List.mem_filter.mp (List.mem_mergeSort.mp h)).1
  rcases List.mem_append.mp hmem with hmem | hmem
  · obtain ⟨session, hsession, rfl⟩ := List.mem_map.mp hmem
    exact List.mem_append_left _ hsession
  · obtain ⟨session, hsession, rfl⟩ := List.mem_map.mp hmem
    exact List.mem_append_right _ hsession

theorem sound_prepareOutboundEvent (hratchet : ratchet.Keeps) {device : DeviceRecordActor}
    (h : device.Sound) (rumor : Rumor) : (device.prepareOutboundEvent ratchet rumor).1.Sound := by
  unfold prepareOutboundEvent
  split
  · exact h
  · exact sound_sendWith hratchet rumor _ h
      (fun candidate hmem => h.current _ (mem_sessions_of_candidate hmem))

/-- The inactive sessions, installed from the last to the first, come to stand as they stood. -/
theorem foldl_install_inactive (deviceId : String) (createdAt : Nat) (sessions : List Session)
    (h : (sessions.map Session.name).Nodup) :
    sessions.reverse.foldl (fun device session => device.installSession session true false)
      (new deviceId createdAt) =
    { new deviceId createdAt with inactiveSessions := sessions.take MAX_INACTIVE_SESSIONS } := by
  induction sessions with
  | nil => rfl
  | cons session rest ih =>
      rw [List.map_cons, List.nodup_cons] at h
      have hother : ∀ other ∈ rest.take MAX_INACTIVE_SESSIONS, other.name ≠ session.name := by
        intro other hmem heq
        exact h.1 (heq ▸ List.mem_map_of_mem (List.mem_of_mem_take hmem))
      have hfilter : (rest.take MAX_INACTIVE_SESSIONS).filter (·.name ≠ session.name) =
          rest.take MAX_INACTIVE_SESSIONS := by
        rw [List.filter_eq_self]
        intro other hmem
        simpa using hother other hmem
      rw [List.reverse_cons, List.foldl_append, ih h.2]
      simp only [List.foldl_cons, List.foldl_nil, installSession, pruneDuplicateSessions,
        trimInactiveSessions, new, Option.filter_none, hfilter, if_true, Option.isSome_none,
        Bool.false_eq_true, if_false]
      congr 1
      rw [MAX_INACTIVE_SESSIONS, List.take_succ_cons, List.take_succ_cons, List.take_take]
      rfl

end DeviceRecordActor

/-! A record through the storage. -/

/-- A device as `storeUserRecord` writes it. -/
def storedDevice (device : DeviceRecordActor) : StoredDeviceRecord :=
  ⟨device.deviceId, device.activeSession.map serializeSession,
    device.inactiveSessions.map serializeSession, device.createdAt⟩

/-- The device that hydration makes of it. -/
def restoredRecord (device : DeviceRecordActor) : DeviceRecordActor :=
  hydrateSessions (storedDevice device) (DeviceRecordActor.new device.deviceId device.createdAt)

theorem filterMap_serialize {sessions : List Session} (h : ∀ session ∈ sessions, session.Current) :
    (sessions.map serializeSession).filterMap deserializeStoredSession = sessions := by
  induction sessions with
  | nil => rfl
  | cons session rest ih =>
      rw [List.map_cons, List.filterMap_cons,
        deserializeStoredSession_serialize (h session List.mem_cons_self),
        ih (fun other hmem => h other (List.mem_cons_of_mem _ hmem))]

/-- A device comes back with the inactive sessions that the cap leaves. -/
theorem restoredRecord_eq {device : DeviceRecordActor} (h : device.Sound) :
    (restoredRecord device).deviceId = device.deviceId ∧
      (restoredRecord device).activeSession = device.activeSession ∧
      (restoredRecord device).inactiveSessions =
        device.inactiveSessions.take MAX_INACTIVE_SESSIONS := by
  obtain ⟨deviceId, active, inactive, state, createdAt⟩ := device
  have hcurrent : ∀ session ∈ inactive, session.Current :=
    fun session hmem => h.current session (List.mem_append_right _ hmem)
  have hnames : (inactive.map Session.name).Nodup :=
    h.names.sublist ((List.sublist_append_right _ _).map _)
  unfold restoredRecord hydrateSessions storedDevice
  dsimp only
  rw [filterMap_serialize hcurrent, DeviceRecordActor.foldl_install_inactive _ _ _ hnames]
  cases active with
  | none => exact ⟨rfl, rfl, rfl⟩
  | some session =>
      have hsession : session.Current := h.current session List.mem_cons_self
      have hother : ∀ other ∈ inactive, other.name ≠ session.name := by
        intro other hmem heq
        have hnodup : (session.name :: inactive.map Session.name).Nodup := h.names
        exact (List.nodup_cons.mp hnodup).1 (heq ▸ List.mem_map_of_mem hmem)
      have hfilter : (inactive.take MAX_INACTIVE_SESSIONS).filter (·.name ≠ session.name) =
          inactive.take MAX_INACTIVE_SESSIONS := by
        rw [List.filter_eq_self]
        intro other hmem
        simpa using hother other (List.mem_of_mem_take hmem)
      have htwice : (inactive.take MAX_INACTIVE_SESSIONS).take MAX_INACTIVE_SESSIONS =
          inactive.take MAX_INACTIVE_SESSIONS := by
        rw [List.take_take, Nat.min_self]
      rw [Option.map_some, Option.bind_some, deserializeStoredSession_serialize hsession]
      simp only [DeviceRecordActor.installSession, DeviceRecordActor.pruneDuplicateSessions,
        DeviceRecordActor.promoteToActive, DeviceRecordActor.new, Option.filter_none, hfilter,
        Bool.false_eq_true, if_false, DeviceRecordActor.trimInactiveSessions, htwice]
      exact ⟨rfl, rfl, rfl⟩

namespace UserRecordActor

/-- Devices and pending events stand under their own ids, and every entry is one that hydration
keeps. -/
structure Sound (record : UserRecordActor) : Prop where
  devices : ∀ entry ∈ record.devices.entries,
    entry.1 = entry.2.deviceId ∧ entry.1 ≠ "" ∧ entry.2.Sound
  pending : ∀ entry ∈ record.pendingDurableEvents.entries,
    entry.1 = entry.2.id ∧ keepsEntry record.publicKey entry.2 = true

/-- The record that a restart gives back. -/
def restarted (record : UserRecordActor) : UserRecordActor :=
  hydrateUserRecord (new record.publicKey) record.stored

/-- A restart gives back the roster with its time, the pending durable events, and of every
device the active session and the inactive sessions in their order. -/
structure RoundTrips (record : UserRecordActor) : Prop where
  appKeys : record.restarted.appKeys = record.appKeys
  appKeysCreatedAt : record.restarted.latestAppKeysCreatedAt = record.latestAppKeysCreatedAt
  pending : record.restarted.pendingDurableEvents = record.pendingDurableEvents
  devices : record.restarted.devices.values.map
      (fun device => (device.deviceId, device.activeSession, device.inactiveSessions)) =
    record.devices.values.map
      (fun device => (device.deviceId, device.activeSession, device.inactiveSessions))

/-- No device has more inactive sessions than the cap, the time of the roster is a safe integer,
and the times in it are finite. -/
structure Restorable (record : UserRecordActor) : Prop where
  inactive : ∀ device ∈ record.devices.values,
    device.inactiveSessions.length ≤ MAX_INACTIVE_SESSIONS
  appKeysCreatedAt : ∃ time : Nat, record.latestAppKeysCreatedAt = .integer time ∧
    time ≤ maxSafeInteger
  appKeys : ∀ appKeys ∈ record.appKeys, appKeys.Finite

/-- A device that was not in the record yet. -/
theorem entries_hydrateDevice {record : UserRecordActor} {device : DeviceRecordActor}
    (hid : device.deviceId ≠ "") (hnew : device.deviceId ∉ record.devices.keys) :
    hydrateDevice record (storedDevice device) = { record with
      devices := record.devices.set device.deviceId (restoredRecord device) } ∧
      (record.devices.set device.deviceId (restoredRecord device)).entries =
        record.devices.entries ++ [(device.deviceId, restoredRecord device)] := by
  have hnone : record.devices.get? device.deviceId = none := by
    rw [← Option.not_isSome_iff_eq_none, ← InsertionMap.mem_keys]
    exact hnew
  refine ⟨?_, InsertionMap.setEntry_of_not_mem hnew⟩
  unfold hydrateDevice ensureDevice storedDevice
  dsimp only
  rw [if_neg hid, hnone]
  simp only [Option.isSome_none, Bool.false_eq_true, if_false, onDevice,
    InsertionMap.get?_set, if_true]
  congr 1
  exact InsertionMap.set_set _ _ _ _

/-- The devices come back one after the other. -/
theorem foldl_hydrateDevice (entries : List (String × DeviceRecordActor))
    (record : UserRecordActor)
    (hentries : ∀ entry ∈ entries, entry.1 = entry.2.deviceId ∧ entry.1 ≠ "")
    (hnodup : (record.devices.keys ++ entries.map Prod.fst).Nodup) :
    ∃ devices, (entries.map (fun entry => storedDevice entry.2)).foldl hydrateDevice record =
        { record with devices } ∧
      devices.entries = record.devices.entries ++
        entries.map (fun entry => (entry.1, restoredRecord entry.2)) := by
  induction entries generalizing record with
  | nil => exact ⟨record.devices, rfl, (List.append_nil _).symm⟩
  | cons entry rest ih =>
      obtain ⟨hkey, hid⟩ := hentries entry List.mem_cons_self
      have hnew : entry.2.deviceId ∉ record.devices.keys := by
        intro hmem
        rw [List.map_cons, List.nodup_append] at hnodup
        exact hnodup.2.2 _ hmem entry.1 List.mem_cons_self hkey.symm
      obtain ⟨hstep, hset⟩ := entries_hydrateDevice (hkey ▸ hid) hnew
      have hkeys : (record.devices.set entry.2.deviceId (restoredRecord entry.2)).keys =
          record.devices.keys ++ [entry.1] := by
        rw [InsertionMap.keys_set, if_neg hnew, hkey]
      obtain ⟨devices, hdevices, hall⟩ := ih { record with
          devices := record.devices.set entry.2.deviceId (restoredRecord entry.2) }
        (fun other hmem => hentries other (List.mem_cons_of_mem _ hmem)) (by
          dsimp only
          rw [hkeys, List.append_assoc]
          exact hnodup)
      refine ⟨devices, ?_, ?_⟩
      · rw [List.map_cons, List.foldl_cons, hstep]
        exact hdevices
      · rw [hall]
        dsimp only
        rw [hset, List.append_assoc, ← hkey]
        rfl

/-- What hydration makes of a sound record, part for part. -/
theorem restarted_eq {record : UserRecordActor} (h : record.Sound) :
    record.restarted.appKeys = record.appKeys.map (fun keys => AppKeys.deserialize keys.serialize) ∧
      record.restarted.latestAppKeysCreatedAt = validTimestamp record.latestAppKeysCreatedAt ∧
      record.restarted.pendingDurableEvents = record.pendingDurableEvents ∧
      record.restarted.devices.entries =
        record.devices.entries.map (fun entry => (entry.1, restoredRecord entry.2)) := by
  have hpending : (record.pendingDurableEvents.values.filter (keepsEntry record.publicKey)).foldl
      (fun map entry => map.set entry.id entry) InsertionMap.empty =
        record.pendingDurableEvents := by
    have hall : record.pendingDurableEvents.values.filter (keepsEntry record.publicKey) =
        record.pendingDurableEvents.values := by
      rw [List.filter_eq_self]
      intro entry hmem
      obtain ⟨pair, hpair, rfl⟩ := List.mem_map.mp hmem
      exact (h.pending pair hpair).2
    rw [hall, InsertionMap.values, List.foldl_map]
    refine Eq.trans ?_ (InsertionMap.foldl_set_entries record.pendingDurableEvents)
    refine List.foldl_ext _ _ _ ?_
    intro map entry hmem
    rw [(h.pending entry hmem).1]
  have hdevices : record.stored.devices =
      record.devices.entries.map (fun entry => storedDevice entry.2) := by
    unfold stored InsertionMap.values
    dsimp only
    rw [List.map_map]
    rfl
  unfold restarted hydrateUserRecord
  rw [hdevices]
  obtain ⟨devices, heq, hentries⟩ := foldl_hydrateDevice record.devices.entries
    { new record.publicKey with
      devices := InsertionMap.empty
      pendingDurableEvents := (record.stored.pendingDurableEvents.filter
        (keepsEntry record.publicKey)).foldl (fun map entry => map.set entry.id entry)
          InsertionMap.empty
      appKeys := record.stored.appKeys.map AppKeys.deserialize
      latestAppKeysCreatedAt := validTimestamp record.stored.appKeysCreatedAt
      appKeysEvent := record.stored.appKeysEvent }
    (fun entry hmem => ⟨(h.devices entry hmem).1, (h.devices entry hmem).2.1⟩)
    record.devices.nodup
  refine ⟨?_, ?_, ?_, ?_⟩
  · exact (congrArg UserRecordActor.appKeys heq).trans (Option.map_map _ _ _)
  · exact congrArg UserRecordActor.latestAppKeysCreatedAt heq
  · exact (congrArg UserRecordActor.pendingDurableEvents heq).trans hpending
  · exact (congrArg (fun next => next.devices.entries) heq).trans hentries

theorem validTimestamp_eq_iff (time : JsNumber) :
    validTimestamp time = time ↔ ∃ value : Nat, time = .integer value ∧ value ≤ maxSafeInteger := by
  cases time with
  | infinity negative => simp [validTimestamp]
  | integer value =>
      unfold validTimestamp
      constructor
      · intro h
        dsimp only at h
        split at h
        · rename_i hrange
          refine ⟨value.toNat, ?_, ?_⟩
          · rw [Int.toNat_of_nonneg hrange.1]
          · omega
        · rename_i hrange
          cases h
          exact absurd ⟨le_refl _, Int.natCast_nonneg _⟩ hrange
      · rintro ⟨n, hn, hle⟩
        cases hn
        have hrange : 0 ≤ (n : Int) ∧ (n : Int) ≤ maxSafeInteger := by omega
        dsimp only
        rw [if_pos hrange]

/-- A sound record comes back exactly where it is restorable. -/
theorem roundTrips_iff {record : UserRecordActor} (h : record.Sound) :
    record.RoundTrips ↔ record.Restorable := by
  obtain ⟨happKeys, htime, hpending, hdevices⟩ := restarted_eq h
  have hkeys : record.restarted.appKeys = record.appKeys ↔
      ∀ appKeys ∈ record.appKeys, appKeys.Finite := by
    rw [happKeys]
    cases record.appKeys with
    | none => simp
    | some appKeys => simp [deserialize_serialize_iff]
  have hsessions : record.restarted.devices.values.map
        (fun device => (device.deviceId, device.activeSession, device.inactiveSessions)) =
      record.devices.values.map
        (fun device => (device.deviceId, device.activeSession, device.inactiveSessions)) ↔
      ∀ device ∈ record.devices.values, device.inactiveSessions.length ≤
        MAX_INACTIVE_SESSIONS := by
    unfold InsertionMap.values
    rw [hdevices, List.map_map, List.map_map, List.map_map, List.map_inj_left]
    simp only [List.forall_mem_map]
    refine forall_congr' fun entry => forall_congr' fun hmem => ?_
    obtain ⟨hid, hactive, hinactive⟩ := restoredRecord_eq (h.devices entry hmem).2.2
    simp only [Function.comp_apply, hid, hactive, hinactive, Prod.mk.injEq, true_and,
      List.take_eq_self_iff]
  have hcreated : record.restarted.latestAppKeysCreatedAt = record.latestAppKeysCreatedAt ↔
      ∃ time : Nat, record.latestAppKeysCreatedAt = .integer time ∧ time ≤ maxSafeInteger := by
    rw [htime]
    exact validTimestamp_eq_iff _
  constructor
  · intro hround
    exact ⟨hsessions.mp hround.devices, hcreated.mp hround.appKeysCreatedAt,
      hkeys.mp hround.appKeys⟩
  · intro hrestorable
    exact ⟨hkeys.mpr hrestorable.appKeys, hcreated.mpr hrestorable.appKeysCreatedAt, hpending,
      hsessions.mpr hrestorable.inactive⟩

end UserRecordActor

/-! The records that the operations reach. -/

/-- Sessions are installed at the version of private handshakes. -/
def RecordAction.Current : RecordAction → Prop
  | .install _ session _ _ => session.Current
  | _ => True

namespace RecordRun

structure Sound (run : RecordRun) : Prop where
  record : run.record.Sound
  acknowledging : ∀ entry ∈ run.acknowledging, keepsEntry run.record.publicKey entry = true

variable {ratchet : Ratchet} {run : RecordRun}

/-- A device of the record is replaced by a sound one of the same id. -/
theorem sound_setDevice {record : UserRecordActor} (h : record.Sound) {deviceId : String}
    {device : DeviceRecordActor} (hid : device.deviceId = deviceId) (hne : deviceId ≠ "")
    (hdevice : device.Sound) :
    UserRecordActor.Sound { record with devices := record.devices.set deviceId device } :=
  ⟨InsertionMap.forall_entries_set h.devices ⟨hid.symm, hne, hdevice⟩, h.pending⟩

/-- The device that a record has under an id. -/
theorem device_of_get {record : UserRecordActor} (h : record.Sound) {deviceId : String}
    {device : DeviceRecordActor} (hget : record.devices.get? deviceId = some device) :
    device.deviceId = deviceId ∧ deviceId ≠ "" ∧ device.Sound := by
  obtain ⟨hid, hne, hdevice⟩ := h.devices _ (InsertionMap.mem_entries.mpr hget)
  exact ⟨hid.symm, hne, hdevice⟩

theorem sound_onDevice (h : run.Sound) (deviceId : String)
    {act : DeviceRecordActor → DeviceRecordActor}
    (hid : ∀ device, (act device).deviceId = device.deviceId)
    (hact : ∀ device : DeviceRecordActor, device.Sound → (act device).Sound) :
    (run.onDevice deviceId act).Sound := by
  unfold onDevice UserRecordActor.onDevice
  split
  · exact h
  · rename_i device hget
    obtain ⟨hdeviceId, hne, hdevice⟩ := device_of_get h.record hget
    exact ⟨sound_setDevice h.record ((hid device).trans hdeviceId) hne (hact device hdevice),
      h.acknowledging⟩

theorem deviceId_promoteToActive (device : DeviceRecordActor) (next : Session)
    (force preferActive : Bool) :
    (device.promoteToActive next force preferActive).deviceId = device.deviceId := by
  unfold DeviceRecordActor.promoteToActive
  dsimp only
  split
  · rfl
  · split
    · rfl
    · split <;> rfl

theorem deviceId_installSession (device : DeviceRecordActor) (session : Session)
    (inactive preferActive : Bool) :
    (device.installSession session inactive preferActive).deviceId = device.deviceId := by
  have hready (device : DeviceRecordActor) :
      (if device.activeSession.isSome then { device with state := .sessionReady }
        else device).deviceId = device.deviceId := by
    split <;> rfl
  cases inactive with
  | true => exact hready _
  | false => exact (hready _).trans (deviceId_promoteToActive _ _ _ _)

theorem deviceId_receiveFrom (event : VerifiedEvent) (skipped seen : List String)
    (sessions : List Session) (device : DeviceRecordActor) :
    (device.receiveFrom ratchet event skipped seen sessions).1.deviceId = device.deviceId := by
  induction sessions generalizing seen device with
  | nil => rfl
  | cons session rest ih =>
      rw [DeviceRecordActor.receiveFrom]
      split
      · exact ih _ _
      · split
        · exact ih _ _
        · dsimp only
          split
          · exact ih _ _
          · exact deviceId_promoteToActive _ _ _ _

theorem deviceId_sendWith (rumor : Rumor) (candidates : List SendCandidate)
    (device : DeviceRecordActor) :
    (device.sendWith ratchet rumor candidates).1.deviceId = device.deviceId := by
  induction candidates generalizing device with
  | nil => rfl
  | cons candidate rest ih =>
      rw [DeviceRecordActor.sendWith]
      dsimp only
      split
      · exact ih _
      · dsimp only
        split
        · rfl
        · exact deviceId_promoteToActive _ _ _ _

theorem sound_receive (hratchet : ratchet.Keeps) (keys : ManagerKeys) (h : run.Sound)
    (deviceId : String) (event : VerifiedEvent) (skipped : List String)
    (durableKinds : List Nat) :
    (run.receive ratchet keys deviceId event skipped durableKinds).Sound := by
  unfold receive
  split
  · exact h
  rename_i device hget
  obtain ⟨hdeviceId, hne, hdevice⟩ := device_of_get h.record hget
  obtain ⟨hsound, hrumor⟩ := DeviceRecordActor.sound_receiveFrom hratchet event skipped []
    device.sessions hdevice hdevice.current
  have hid : (device.processReceivedEvent ratchet event skipped).1.deviceId = deviceId :=
    (deviceId_receiveFrom _ _ _ _ _).trans hdeviceId
  have hrecord := sound_setDevice h.record hid hne hsound
  dsimp only
  split
  · exact ⟨hrecord, h.acknowledging⟩
  · rename_i rumor hsome
    have hkeep : keepsEntry run.record.publicKey
        (durableEntry keys run.record.publicKey deviceId rumor event) = true := by
      simp [keepsEntry, durableEntry, hrumor rumor hsome]
    split
    · refine ⟨?_, ?_⟩
      · unfold UserRecordActor.enqueue
        dsimp only
        split
        · exact hrecord
        · exact ⟨hrecord.devices,
            InsertionMap.forall_entries_set hrecord.pending ⟨rfl, hkeep⟩⟩
      · unfold UserRecordActor.enqueue
        dsimp only
        split
        · exact h.acknowledging
        · exact h.acknowledging
    · exact ⟨hrecord, h.acknowledging⟩

theorem sound_deactivate (h : run.Sound) : run.deactivateCurrentSessions.Sound := by
  unfold deactivateCurrentSessions
  generalize run.record.devices.keys = deviceIds
  induction deviceIds generalizing run with
  | nil => exact h
  | cons deviceId rest ih =>
      refine ih (sound_onDevice h deviceId ?_ ?_)
      · intro device
        unfold DeviceRecordActor.deactivateCurrentSession
        split <;> rfl
      · intro device hdevice
        exact DeviceRecordActor.sound_deactivate hdevice

/-- An operation keeps the record sound. -/
theorem sound_step (hratchet : ratchet.Keeps) (keys : ManagerKeys) (h : run.Sound)
    (action : RecordAction) (hcurrent : action.Current) : (run.step ratchet keys action).Sound := by
  cases action with
  | ensureDevice deviceId createdAt =>
      simp only [step, UserRecordActor.ensureDevice]
      split
      · exact h
      · rename_i hne
        split
        · exact h
        · exact ⟨sound_setDevice h.record rfl hne (DeviceRecordActor.sound_new _ _),
            h.acknowledging⟩
  | install deviceId session inactive preferActive =>
      exact sound_onDevice h deviceId (fun device => deviceId_installSession device _ _ _)
        (fun device hdevice => DeviceRecordActor.sound_installSession hdevice hcurrent _ _)
  | receive deviceId event skipped durableKinds => exact sound_receive hratchet keys h _ _ _ _
  | send deviceId rumor =>
      refine sound_onDevice h deviceId ?_ ?_
      · intro device
        unfold DeviceRecordActor.prepareOutboundEvent
        split
        · rfl
        · exact deviceId_sendWith _ _ _
      · intro device hdevice
        exact DeviceRecordActor.sound_prepareOutboundEvent hratchet hdevice rumor
  | deactivateCurrentSessions => exact sound_deactivate h
  | setState deviceId state =>
      exact sound_onDevice h deviceId (fun _ => rfl)
        (fun device hdevice => ⟨hdevice.names, hdevice.current⟩)
  | revoke deviceId =>
      refine sound_onDevice h deviceId (fun _ => rfl) ?_
      intro device _
      refine ⟨List.nodup_nil, ?_⟩
      intro session hmem
      cases hmem
  | deleteDevice deviceId =>
      exact ⟨⟨fun entry hmem => h.record.devices entry (List.mem_filter.mp hmem).1,
        h.record.pending⟩, h.acknowledging⟩
  | setAppKeys appKeys createdAt event =>
      exact ⟨⟨h.record.devices, h.record.pending⟩, h.acknowledging⟩
  | acknowledge id =>
      simp only [step, acknowledge]
      split
      · exact h
      · rename_i entry hget
        refine ⟨⟨h.record.devices, fun other hmem => h.record.pending other
          (List.mem_filter.mp hmem).1⟩, ?_⟩
        intro other hmem
        rcases List.mem_append.mp hmem with hmem | hmem
        · exact h.acknowledging other hmem
        · rw [List.mem_singleton.mp hmem]
          exact (h.record.pending _ (InsertionMap.mem_entries.mpr hget)).2
  | acknowledged index =>
      exact ⟨h.record, fun entry hmem => h.acknowledging entry (List.mem_of_mem_eraseIdx hmem)⟩
  | restore index =>
      simp only [step, restore]
      split
      · exact h
      · rename_i entry hget
        refine ⟨⟨h.record.devices, InsertionMap.forall_entries_set h.record.pending
          ⟨rfl, h.acknowledging entry (List.mem_of_getElem? hget)⟩⟩, ?_⟩
        intro other hmem
        exact h.acknowledging other (List.mem_of_mem_eraseIdx hmem)

theorem sound_steps (hratchet : ratchet.Keeps) (keys : ManagerKeys) (h : run.Sound)
    (actions : List RecordAction) (hcurrent : ∀ action ∈ actions, action.Current) :
    (run.steps ratchet keys actions).Sound := by
  induction actions generalizing run with
  | nil => exact h
  | cons action rest ih =>
      exact ih (sound_step hratchet keys h action (hcurrent action List.mem_cons_self))
        (fun other hmem => hcurrent other (List.mem_cons_of_mem _ hmem))

theorem sound_new (publicKey : String) : (new publicKey).Sound := by
  refine ⟨⟨?_, ?_⟩, ?_⟩
  · intro entry hmem
    cases hmem
  · intro entry hmem
    cases hmem
  · intro entry hmem
    cases hmem

end RecordRun

/-! Operations under which a record stays restorable. -/

namespace DeviceRecordActor

def Capped (device : DeviceRecordActor) : Prop :=
  device.inactiveSessions.length ≤ MAX_INACTIVE_SESSIONS

variable {ratchet : Ratchet} {device : DeviceRecordActor}

theorem capped_trim (device : DeviceRecordActor) : device.trimInactiveSessions.Capped :=
  List.length_take_le _ _

theorem capped_setSession (h : device.Capped) (session : Session) :
    (device.setSession session).Capped := by
  unfold Capped setSession
  rw [List.length_map]
  exact h

theorem capped_promoteToActive (h : device.Capped) (next : Session) (force preferActive : Bool) :
    (device.promoteToActive next force preferActive).Capped := by
  unfold promoteToActive
  dsimp only
  split
  · exact capped_trim _
  · split
    · exact (List.length_filter_le _ _).trans h
    · split
      · exact capped_trim _
      · exact capped_trim _

theorem capped_installSession (h : device.Capped) (session : Session)
    (inactive preferActive : Bool) :
    (device.installSession session inactive preferActive).Capped := by
  have hpruned : (device.pruneDuplicateSessions session).Capped :=
    (List.length_filter_le _ _).trans h
  have hready : ∀ {installed : DeviceRecordActor}, installed.Capped →
      (if installed.activeSession.isSome then { installed with state := .sessionReady }
        else installed).Capped := by
    intro installed hinstalled
    split
    · exact hinstalled
    · exact hinstalled
  cases inactive with
  | true => exact hready (capped_trim _)
  | false => exact hready (capped_promoteToActive hpruned _ _ _)

theorem capped_receiveFrom (event : VerifiedEvent) (skipped seen : List String)
    (sessions : List Session) (h : device.Capped) :
    (device.receiveFrom ratchet event skipped seen sessions).1.Capped := by
  induction sessions generalizing seen device with
  | nil => exact h
  | cons session rest ih =>
      rw [receiveFrom]
      split
      · exact ih _ h
      · split
        · exact ih _ h
        · dsimp only
          split
          · exact ih _ (capped_setSession h _)
          · exact capped_promoteToActive (capped_setSession h _) _ _ _

theorem capped_sendWith (rumor : Rumor) (candidates : List SendCandidate) (h : device.Capped) :
    (device.sendWith ratchet rumor candidates).1.Capped := by
  induction candidates generalizing device with
  | nil => exact h
  | cons candidate rest ih =>
      rw [sendWith]
      dsimp only
      split
      · exact ih (capped_setSession h _)
      · dsimp only
        split
        · exact capped_setSession h _
        · exact capped_promoteToActive (capped_setSession h _) _ _ _

theorem capped_prepareOutboundEvent (rumor : Rumor) (h : device.Capped) :
    (device.prepareOutboundEvent ratchet rumor).1.Capped := by
  unfold prepareOutboundEvent
  split
  · exact h
  · exact capped_sendWith rumor _ h

/-- An active session of the device leaves room for it among the inactive ones. -/
def HasRoom (device : DeviceRecordActor) : Prop :=
  device.activeSession.isSome → device.inactiveSessions.length < MAX_INACTIVE_SESSIONS

theorem capped_deactivate (h : device.Capped) (hroom : device.HasRoom) :
    device.deactivateCurrentSession.Capped := by
  unfold deactivateCurrentSession
  split
  · exact h
  · rename_i session hactive
    have hlt := hroom (by rw [hactive]; rfl)
    unfold Capped
    rw [List.length_append]
    exact hlt

end DeviceRecordActor

namespace RecordRun

variable {ratchet : Ratchet} {run : RecordRun}

/-- Where a device is deactivated there is room for its session, and the roster of a record has
times that a store can hold. -/
def Spares (run : RecordRun) : RecordAction → Prop
  | .deactivateCurrentSessions => ∀ entry ∈ run.record.devices.entries, entry.2.HasRoom
  | .setAppKeys appKeys createdAt _ =>
      (∀ keys ∈ appKeys, keys.Finite) ∧
        ∃ time : Nat, createdAt = .integer time ∧ time ≤ maxSafeInteger
  | _ => True

def SparesAll (ratchet : Ratchet) (keys : ManagerKeys) : RecordRun → List RecordAction → Prop
  | _, [] => True
  | run, action :: rest =>
      run.Spares action ∧ SparesAll ratchet keys (run.step ratchet keys action) rest

def Capped (run : RecordRun) : Prop := ∀ entry ∈ run.record.devices.entries, entry.2.Capped

theorem capped_onDevice (h : run.Capped) (deviceId : String)
    {act : DeviceRecordActor → DeviceRecordActor}
    (hact : ∀ device : DeviceRecordActor, device.Capped → (act device).Capped) :
    (run.onDevice deviceId act).Capped := by
  unfold onDevice UserRecordActor.onDevice
  split
  · exact h
  · rename_i device hget
    exact InsertionMap.forall_entries_set h
      (hact device (h _ (InsertionMap.mem_entries.mpr hget)))

theorem capped_receive (keys : ManagerKeys) (h : run.Capped) (deviceId : String)
    (event : VerifiedEvent) (skipped : List String) (durableKinds : List Nat) :
    (run.receive ratchet keys deviceId event skipped durableKinds).Capped := by
  unfold receive
  split
  · exact h
  rename_i device hget
  have hdevice : (device.processReceivedEvent ratchet event skipped).1.Capped :=
    DeviceRecordActor.capped_receiveFrom event skipped [] _
      (h _ (InsertionMap.mem_entries.mpr hget))
  dsimp only
  split
  · exact InsertionMap.forall_entries_set h hdevice
  · split
    · unfold UserRecordActor.enqueue
      dsimp only
      split
      · exact InsertionMap.forall_entries_set h hdevice
      · exact InsertionMap.forall_entries_set h hdevice
    · exact InsertionMap.forall_entries_set h hdevice

/-- Each device is deactivated once, so that its room at the start is what counts. -/
theorem capped_foldl_deactivate (deviceIds : List String) (hnodup : deviceIds.Nodup)
    (h : run.Capped)
    (hroom : ∀ entry ∈ run.record.devices.entries, entry.1 ∈ deviceIds → entry.2.HasRoom) :
    (deviceIds.foldl (fun run deviceId =>
      run.onDevice deviceId DeviceRecordActor.deactivateCurrentSession) run).Capped := by
  induction deviceIds generalizing run with
  | nil => exact h
  | cons deviceId rest ih =>
      rw [List.nodup_cons] at hnodup
      refine ih hnodup.2 ?_ ?_
      · change (run.onDevice deviceId _).Capped
        unfold onDevice UserRecordActor.onDevice
        split
        · exact h
        · rename_i device hget
          have hmem := InsertionMap.mem_entries.mpr hget
          exact InsertionMap.forall_entries_set h (DeviceRecordActor.capped_deactivate (h _ hmem)
            (hroom _ hmem List.mem_cons_self))
      · change ∀ entry ∈ (run.onDevice deviceId _).record.devices.entries, _
        unfold onDevice UserRecordActor.onDevice
        split
        · intro entry hmem hin
          exact hroom entry hmem (List.mem_cons_of_mem _ hin)
        · intro entry hmem hin
          rcases InsertionMap.mem_setEntry hmem with hold | rfl
          · exact hroom entry hold (List.mem_cons_of_mem _ hin)
          · exact absurd hin hnodup.1

theorem capped_step (keys : ManagerKeys) (h : run.Capped) (action : RecordAction)
    (hspares : run.Spares action) : (run.step ratchet keys action).Capped := by
  cases action with
  | ensureDevice deviceId createdAt =>
      simp only [step, UserRecordActor.ensureDevice]
      split
      · exact h
      · split
        · exact h
        · exact InsertionMap.forall_entries_set h (Nat.zero_le _)
  | install deviceId session inactive preferActive =>
      exact capped_onDevice h deviceId
        (fun device hdevice => DeviceRecordActor.capped_installSession hdevice _ _ _)
  | receive deviceId event skipped durableKinds => exact capped_receive keys h _ _ _ _
  | send deviceId rumor =>
      exact capped_onDevice h deviceId
        (fun device hdevice => DeviceRecordActor.capped_prepareOutboundEvent rumor hdevice)
  | deactivateCurrentSessions =>
      exact capped_foldl_deactivate _ run.record.devices.nodup h
        (fun entry hmem _ => hspares entry hmem)
  | setState deviceId state => exact capped_onDevice h deviceId (fun _ hdevice => hdevice)
  | revoke deviceId => exact capped_onDevice h deviceId (fun _ _ => Nat.zero_le _)
  | deleteDevice deviceId => exact fun entry hmem => h entry (List.mem_filter.mp hmem).1
  | setAppKeys appKeys createdAt event => exact h
  | acknowledge id =>
      simp only [step, acknowledge]
      split
      · exact h
      · exact h
  | acknowledged index => exact h
  | restore index =>
      simp only [step, restore]
      split
      · exact h
      · exact h

/-- The roster of the record has times that a store can hold. -/
def RosterStorable (run : RecordRun) : Prop :=
  (∀ appKeys ∈ run.record.appKeys, appKeys.Finite) ∧
    ∃ time : Nat, run.record.latestAppKeysCreatedAt = .integer time ∧ time ≤ maxSafeInteger

theorem rosterStorable_of_eq {next : RecordRun} (h : run.RosterStorable)
    (heq : (next.record.appKeys, next.record.latestAppKeysCreatedAt) =
      (run.record.appKeys, run.record.latestAppKeysCreatedAt)) : next.RosterStorable := by
  obtain ⟨happKeys, htime⟩ := Prod.mk.inj heq
  unfold RosterStorable
  rw [happKeys, htime]
  exact h

theorem roster_onDevice (run : RecordRun) (deviceId : String)
    (act : DeviceRecordActor → DeviceRecordActor) :
    ((run.onDevice deviceId act).record.appKeys,
      (run.onDevice deviceId act).record.latestAppKeysCreatedAt) =
      (run.record.appKeys, run.record.latestAppKeysCreatedAt) := by
  unfold onDevice UserRecordActor.onDevice
  split <;> rfl

theorem roster_receive (keys : ManagerKeys) (run : RecordRun) (deviceId : String)
    (event : VerifiedEvent) (skipped : List String) (durableKinds : List Nat) :
    ((run.receive ratchet keys deviceId event skipped durableKinds).record.appKeys,
      (run.receive ratchet keys deviceId event skipped durableKinds).record.latestAppKeysCreatedAt) =
      (run.record.appKeys, run.record.latestAppKeysCreatedAt) := by
  unfold receive UserRecordActor.enqueue
  dsimp only
  split
  · rfl
  · split
    · rfl
    · split
      · split <;> rfl
      · rfl

theorem roster_deactivate (run : RecordRun) :
    (run.deactivateCurrentSessions.record.appKeys,
      run.deactivateCurrentSessions.record.latestAppKeysCreatedAt) =
      (run.record.appKeys, run.record.latestAppKeysCreatedAt) := by
  unfold deactivateCurrentSessions
  generalize run.record.devices.keys = deviceIds
  induction deviceIds generalizing run with
  | nil => rfl
  | cons deviceId rest ih => exact (ih _).trans (roster_onDevice run deviceId _)

theorem rosterStorable_step (keys : ManagerKeys) (h : run.RosterStorable) (action : RecordAction)
    (hspares : run.Spares action) : (run.step ratchet keys action).RosterStorable := by
  cases action with
  | ensureDevice deviceId createdAt =>
      refine rosterStorable_of_eq h ?_
      simp only [step, UserRecordActor.ensureDevice]
      split
      · rfl
      · split <;> rfl
  | install deviceId session inactive preferActive =>
      exact rosterStorable_of_eq h (roster_onDevice run deviceId _)
  | receive deviceId event skipped durableKinds =>
      exact rosterStorable_of_eq h (roster_receive keys run deviceId event skipped durableKinds)
  | send deviceId rumor => exact rosterStorable_of_eq h (roster_onDevice run deviceId _)
  | deactivateCurrentSessions => exact rosterStorable_of_eq h (roster_deactivate run)
  | setState deviceId state => exact rosterStorable_of_eq h (roster_onDevice run deviceId _)
  | revoke deviceId => exact rosterStorable_of_eq h (roster_onDevice run deviceId _)
  | deleteDevice deviceId => exact h
  | setAppKeys appKeys createdAt event => exact hspares
  | acknowledge id =>
      refine rosterStorable_of_eq h ?_
      simp only [step, acknowledge]
      split <;> rfl
  | acknowledged index => exact h
  | restore index =>
      refine rosterStorable_of_eq h ?_
      simp only [step, restore]
      split <;> rfl

theorem restorable_steps (keys : ManagerKeys) (hcapped : run.Capped) (hroster : run.RosterStorable)
    (actions : List RecordAction) (hspares : run.SparesAll ratchet keys actions) :
    (run.steps ratchet keys actions).record.Restorable := by
  induction actions generalizing run with
  | nil =>
      refine ⟨?_, hroster.2, hroster.1⟩
      intro device hmem
      obtain ⟨entry, hentry, rfl⟩ := List.mem_map.mp hmem
      exact hcapped entry hentry
  | cons action rest ih =>
      exact ih (capped_step keys hcapped action hspares.1)
        (rosterStorable_step keys hroster action hspares.1) hspares.2

/-- A reachable record comes back from the storage exactly where it is restorable, as it is
throughout a run that deactivates no device that is full and stores no other times. -/
theorem roundTrips_iff_restorable (hratchet : ratchet.Keeps) (keys : ManagerKeys)
    (publicKey : String) (actions : List RecordAction)
    (hcurrent : ∀ action ∈ actions, action.Current) :
    (((new publicKey).steps ratchet keys actions).record.RoundTrips ↔
      ((new publicKey).steps ratchet keys actions).record.Restorable) ∧
    ((new publicKey).SparesAll ratchet keys actions →
      ((new publicKey).steps ratchet keys actions).record.RoundTrips) := by
  have hiff := UserRecordActor.roundTrips_iff
    (sound_steps hratchet keys (sound_new publicKey) actions hcurrent).record
  refine ⟨hiff, ?_⟩
  intro hspares
  refine hiff.mpr (restorable_steps keys ?_ ?_ actions hspares)
  · intro entry hmem
    cases hmem
  · refine ⟨?_, 0, rfl, Nat.zero_le _⟩
    intro appKeys hmem
    cases hmem

/-! A device with ten inactive sessions is deactivated. -/

def inertRatchet : Ratchet := ⟨fun state _ => (state, none), fun state _ _ => (state, none)⟩

theorem keeps_inertRatchet : inertRatchet.Keeps :=
  ⟨fun _ _ => rfl, fun _ _ _ => rfl, fun _ _ _ h => by cases h⟩

def idleSession (name : String) : Session where
  name
  state :=
    { metadataPrivacyVersion := some METADATA_PRIVACY_VERSION
      rootKey := [1, 2]
      theirCurrentNostrPublicKey := none
      theirNextNostrPublicKey := "peer"
      ourCurrentNostrKey := some ⟨"ours", [3]⟩
      ourNextNostrKey := ⟨"next", [4]⟩
      receivingChainKey := none
      sendingChainKey := some [5]
      sendingChainMessageNumber := 0
      receivingChainMessageNumber := 0
      previousSendingChainMessageCount := 0
      skippedKeys := InsertionMap.empty }

def installs (names : List String) (inactive : Bool) : List RecordAction :=
  names.map (fun name => .install "phone" (idleSession name) inactive false)

def fullThenDeactivated : List RecordAction :=
  .ensureDevice "phone" 7 :: installs ["a", "b", "c", "d", "e", "f", "g", "h", "i", "j"] true ++
    installs ["k"] false ++ [.deactivateCurrentSessions]

theorem current_installs (names : List String) (inactive : Bool) :
    ∀ action ∈ installs names inactive, action.Current := by
  intro action hmem
  obtain ⟨name, -, rfl⟩ := List.mem_map.mp hmem
  exact rfl

theorem current_fullThenDeactivated : ∀ action ∈ fullThenDeactivated, action.Current := by
  intro action hmem
  simp only [fullThenDeactivated, List.cons_append, List.append_assoc, List.mem_cons,
    List.mem_append, List.not_mem_nil, or_false] at hmem
  rcases hmem with rfl | hmem | hmem | rfl
  · trivial
  · exact current_installs _ _ action hmem
  · exact current_installs _ _ action hmem
  · trivial

/-- The deactivated session stands behind the cap, and is not there after a restart. -/
theorem loses_deactivated_session :
    inertRatchet.Keeps ∧ (∀ action ∈ fullThenDeactivated, action.Current) ∧
    ((new "bob").steps inertRatchet ⟨"alice", "laptop"⟩ fullThenDeactivated).record.devices.values.map
      (fun device => device.inactiveSessions.map Session.name) =
      [["j", "i", "h", "g", "f", "e", "d", "c", "b", "a", "k"]] ∧
    ((new "bob").steps inertRatchet ⟨"alice", "laptop"⟩
      fullThenDeactivated).record.restarted.devices.values.map
      (fun device => device.inactiveSessions.map Session.name) =
      [["j", "i", "h", "g", "f", "e", "d", "c", "b", "a"]] ∧
    ¬((new "bob").steps inertRatchet ⟨"alice", "laptop"⟩ fullThenDeactivated).record.RoundTrips := by
  have hlive : ((new "bob").steps inertRatchet ⟨"alice", "laptop"⟩
      fullThenDeactivated).record.devices.values.map
      (fun device => device.inactiveSessions.map Session.name) =
      [["j", "i", "h", "g", "f", "e", "d", "c", "b", "a", "k"]] := by
    decide +kernel
  have hrestarted : ((new "bob").steps inertRatchet ⟨"alice", "laptop"⟩
      fullThenDeactivated).record.restarted.devices.values.map
      (fun device => device.inactiveSessions.map Session.name) =
      [["j", "i", "h", "g", "f", "e", "d", "c", "b", "a"]] := by
    decide +kernel
  refine ⟨keeps_inertRatchet, current_fullThenDeactivated, hlive, hrestarted, ?_⟩
  intro hround
  have hnames := congrArg (List.map (fun device => device.2.2.map Session.name)) hround.devices
  rw [List.map_map, List.map_map] at hnames
  have heq := hrestarted.symm.trans (hnames.trans hlive)
  revert heq
  decide

def installedThenDeactivated : List RecordAction :=
  [.ensureDevice "phone" 7, .install "phone" (idleSession "a") false false,
    .deactivateCurrentSessions]

theorem restores_after_deactivation :
    ((new "bob").steps inertRatchet ⟨"alice", "laptop"⟩
      installedThenDeactivated).record.RoundTrips := by
  refine (roundTrips_iff_restorable keeps_inertRatchet ⟨"alice", "laptop"⟩ "bob"
    installedThenDeactivated ?_).2 ⟨trivial, trivial, ?_, trivial⟩
  · intro action hmem
    simp only [installedThenDeactivated, List.mem_cons, List.not_mem_nil, or_false] at hmem
    rcases hmem with rfl | rfl | rfl
    · trivial
    · exact rfl
    · trivial
  · intro entry hmem _
    have hlengths : ∀ length ∈ (((new "bob").step inertRatchet ⟨"alice", "laptop"⟩
        (.ensureDevice "phone" 7)).step inertRatchet ⟨"alice", "laptop"⟩
          (.install "phone" (idleSession "a") false false)).record.devices.entries.map
            (fun entry => entry.2.inactiveSessions.length), length < MAX_INACTIVE_SESSIONS := by
      decide +kernel
    exact hlengths _ (List.mem_map_of_mem hmem)

end RecordRun

end NostrDoubleRatchet.TypeScript.SessionRecords
