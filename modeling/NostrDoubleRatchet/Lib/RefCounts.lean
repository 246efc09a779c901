import NostrDoubleRatchet.Lib.SortedSet

/-!
Reference counts. Registrations hold lists of values; the count of a value is the number of
registrations that hold it, and a value is tracked while its count is positive. A registration
is named by an id and holds what its content contributes.
-/

namespace SortedMap

variable {α β : Type} [LinearOrder α]

theorem nodup_entries (m : SortedMap α β) : m.entries.Nodup :=
  m.sorted.imp fun {a b} h heq => by
    rw [heq] at h
    exact lt_irrefl _ h

/-- The entries of a map with one more key. -/
theorem perm_entries_insert {m : SortedMap α β} {k : α} (h : m.get? k = none) (v : β) :
    (m.insert k v).entries.Perm ((k, v) :: m.entries) := by
  have hnew : (k, v) ∉ m.entries := by
    intro hmem
    rw [mem_entries, h] at hmem
    cases hmem
  refine (List.perm_ext_iff_of_nodup (m.insert k v).nodup_entries
    (List.nodup_cons.mpr ⟨hnew, m.nodup_entries⟩)).mpr ?_
  rintro ⟨k', v'⟩
  rw [mem_entries, List.mem_cons, mem_entries, get?_insert]
  by_cases hk : k = k'
  · subst hk
    simp [h, eq_comm]
  · simp [hk, Ne.symm hk]

theorem insert_erase {m : SortedMap α β} {k : α} {v : β} (h : m.get? k = some v) :
    (m.erase k).insert k v = m := by
  refine ext_get? fun k' => ?_
  rw [get?_insert]
  by_cases hk : k = k'
  · subst hk
    rw [if_pos rfl, h]
  · rw [if_neg hk, get?_erase_ne m hk]

end SortedMap

/-- The values each registration holds, and how many registrations hold each value. -/
structure RefCounts (ι α : Type) [LinearOrder ι] [LinearOrder α] where
  held : SortedMap ι (List α)
  counts : SortedMap α Nat

namespace RefCounts

variable {ι φ α : Type} [LinearOrder ι] [LinearOrder α]

attribute [local instance] SortedMap.lawfulBEq

def empty : RefCounts ι α := ⟨SortedMap.empty, SortedMap.empty⟩

/-- Count the values once more. The values that were not counted are returned. -/
def retain (counts : SortedMap α Nat) : List α → SortedMap α Nat × List α
  | [] => (counts, [])
  | value :: rest =>
      let count := (counts.get? value).getD 0
      let (next, added) := retain (counts.insert value (count + 1)) rest
      (next, if count = 0 then value :: added else added)

/-- Count the values once less. -/
def release (counts : SortedMap α Nat) (values : List α) : SortedMap α Nat :=
  values.foldl (fun counts value =>
    let count := (counts.get? value).getD 1 - 1
    if count = 0 then counts.erase value else counts.insert value count) counts

def register (refs : RefCounts ι α) (id : ι) (values : List α) : RefCounts ι α × List α :=
  if values = [] then (refs, [])
  else
    let (counts, added) := retain refs.counts values
    (⟨refs.held.insert id values, counts⟩, added)

def unregister (refs : RefCounts ι α) (id : ι) : RefCounts ι α :=
  match refs.held.get? id with
  | none => refs
  | some values => ⟨refs.held.erase id, release refs.counts values⟩

def tracked (refs : RefCounts ι α) : List α := refs.counts.keys

/-! One list of values. -/

theorem get?_retain {counts : SortedMap α Nat} {values : List α} (hnodup : values.Nodup) (a : α) :
    (retain counts values).1.get? a =
      if a ∈ values then some ((counts.get? a).getD 0 + 1) else counts.get? a := by
  induction values generalizing counts with
  | nil => rfl
  | cons value rest ih =>
      obtain ⟨hnot, hrest⟩ := List.nodup_cons.mp hnodup
      change (retain (counts.insert value _) rest).1.get? a = _
      rw [ih hrest, SortedMap.get?_insert]
      by_cases hval : value = a
      · subst hval
        simp [hnot]
      · simp [hval, Ne.symm hval]

theorem added_retain {counts : SortedMap α Nat} {values : List α} (hnodup : values.Nodup) :
    (retain counts values).2 = values.filter (fun a => (counts.get? a).getD 0 = 0) := by
  induction values generalizing counts with
  | nil => rfl
  | cons value rest ih =>
      obtain ⟨hnot, hrest⟩ := List.nodup_cons.mp hnodup
      have hsame : (retain (counts.insert value ((counts.get? value).getD 0 + 1)) rest).2 =
          rest.filter (fun a => (counts.get? a).getD 0 = 0) := by
        rw [ih hrest]
        refine List.filter_congr fun a ha => ?_
        have hne : value ≠ a := by
          rintro rfl
          exact hnot ha
        rw [SortedMap.get?_insert_ne _ _ hne]
      change (if _ then _ :: (retain (counts.insert value _) rest).2 else _) = _
      rw [hsame, List.filter_cons]
      simp only [decide_eq_true_eq]

theorem get?_release {counts : SortedMap α Nat} {values : List α} (hnodup : values.Nodup) (a : α) :
    (release counts values).get? a =
      if a ∈ values then
        if (counts.get? a).getD 1 - 1 = 0 then none else some ((counts.get? a).getD 1 - 1)
      else counts.get? a := by
  induction values generalizing counts with
  | nil => rfl
  | cons value rest ih =>
      obtain ⟨hnot, hrest⟩ := List.nodup_cons.mp hnodup
      change (release (if _ then _ else _) rest).get? a = _
      rw [ih hrest]
      by_cases hval : value = a
      · subst hval
        rw [if_neg hnot, if_pos List.mem_cons_self]
        split
        · exact SortedMap.get?_erase_self _ _
        · exact SortedMap.get?_insert_self _ _ _
      · have hget : (if (counts.get? value).getD 1 - 1 = 0 then counts.erase value
            else counts.insert value ((counts.get? value).getD 1 - 1)).get? a =
              counts.get? a := by
          split
          · exact SortedMap.get?_erase_ne _ hval
          · exact SortedMap.get?_insert_ne _ _ hval
        rw [hget]
        simp [Ne.symm hval]

/-! Registrations and what they contribute. -/

/-- How many registrations contribute `a`. -/
def contributors (contributes : ι → φ → List α) (registered : SortedMap ι φ) (a : α) : Nat :=
  registered.entries.countP (fun entry => a ∈ contributes entry.1 entry.2)

variable {contributes : ι → φ → List α} {registered : SortedMap ι φ}

theorem contributors_insert {id : ι} (h : registered.get? id = none) (content : φ) (a : α) :
    contributors contributes (registered.insert id content) a =
      contributors contributes registered a + if a ∈ contributes id content then 1 else 0 := by
  unfold contributors
  rw [(SortedMap.perm_entries_insert h content).countP_eq, List.countP_cons]
  simp only [decide_eq_true_eq]

theorem contributors_erase {id : ι} {content : φ} (h : registered.get? id = some content) (a : α) :
    contributors contributes registered a =
      contributors contributes (registered.erase id) a +
        if a ∈ contributes id content then 1 else 0 := by
  conv_lhs => rw [← SortedMap.insert_erase h]
  exact contributors_insert (SortedMap.get?_erase_self _ _) content a

theorem contributors_pos {a : α} : 0 < contributors contributes registered a ↔
    ∃ id content, registered.get? id = some content ∧ a ∈ contributes id content := by
  unfold contributors
  rw [List.countP_pos_iff]
  constructor
  · rintro ⟨⟨id, content⟩, hmem, ha⟩
    exact ⟨id, content, SortedMap.mem_entries.mp hmem, of_decide_eq_true ha⟩
  · rintro ⟨id, content, hget, ha⟩
    exact ⟨(id, content), SortedMap.mem_entries.mpr hget, decide_eq_true ha⟩

/-- Everything the registrations contribute. -/
def union (contributes : ι → φ → List α) (registered : SortedMap ι φ) : SortedSet α :=
  SortedSet.ofList (registered.entries.flatMap (fun entry => contributes entry.1 entry.2))

theorem mem_union {a : α} : a ∈ union contributes registered ↔
    0 < contributors contributes registered a := by
  unfold union
  rw [SortedSet.mem_ofList, List.mem_flatMap, contributors_pos]
  constructor
  · rintro ⟨⟨id, content⟩, hmem, ha⟩
    exact ⟨id, content, SortedMap.mem_entries.mp hmem, ha⟩
  · rintro ⟨id, content, hget, ha⟩
    exact ⟨(id, content), SortedMap.mem_entries.mpr hget, ha⟩

/-- The counts are those of the registrations, each of which holds what it contributes. -/
structure Tracks (contributes : ι → φ → List α) (registered : SortedMap ι φ)
    (refs : RefCounts ι α) : Prop where
  held : ∀ id, refs.held.get? id =
    ((registered.get? id).map (contributes id)).filter (fun values => values ≠ [])
  counts : ∀ a, refs.counts.get? a =
    if contributors contributes registered a = 0 then none
    else some (contributors contributes registered a)

theorem tracks_empty : Tracks contributes SortedMap.empty (empty : RefCounts ι α) :=
  ⟨fun _ => rfl, fun _ => rfl⟩

variable {refs : RefCounts ι α}

theorem Tracks.getD_counts (h : Tracks contributes registered refs) (a : α) :
    (refs.counts.get? a).getD 0 = contributors contributes registered a := by
  rw [h.counts]
  split
  · rename_i hzero
    rw [hzero]
    rfl
  · rfl

theorem Tracks.mem_tracked (h : Tracks contributes registered refs) {a : α} :
    a ∈ refs.tracked ↔ 0 < contributors contributes registered a := by
  unfold tracked
  rw [SortedMap.mem_keys, h.counts]
  split
  · rename_i hzero
    simp [hzero]
  · rename_i hpos
    simp [Nat.pos_of_ne_zero hpos]

/-- The tracked values are the union of the contributions. -/
theorem Tracks.tracked_eq (h : Tracks contributes registered refs) :
    refs.tracked = (union contributes registered).toList := by
  refine (SortedSet.toList_eq_of_sorted ?_ fun a => ?_).symm
  · unfold tracked SortedMap.keys
    rw [List.pairwise_map]
    exact refs.counts.sorted
  · rw [h.mem_tracked, mem_union]

/-- Registering under a new id adds its contribution; what is returned was not tracked. -/
theorem Tracks.register (h : Tracks contributes registered refs) {id : ι}
    (hnew : registered.get? id = none) {content : φ} (hnodup : (contributes id content).Nodup) :
    Tracks contributes (registered.insert id content)
        (refs.register id (contributes id content)).1 ∧
      (refs.register id (contributes id content)).2 =
        (contributes id content).filter (fun a => a ∉ refs.tracked) := by
  have hadded : ∀ a, (refs.counts.get? a).getD 0 = 0 ↔ a ∉ refs.tracked := by
    intro a
    rw [h.getD_counts, h.mem_tracked]
    omega
  by_cases hnone : contributes id content = []
  · have hsame : refs.register id (contributes id content) = (refs, []) := if_pos hnone
    rw [hsame, hnone]
    refine ⟨⟨fun other => ?_, fun a => ?_⟩, rfl⟩
    · rw [h.held, SortedMap.get?_insert]
      by_cases hid : id = other
      · subst hid
        rw [if_pos rfl, hnew]
        simp [hnone, Option.filter]
      · rw [if_neg hid]
    · rw [h.counts, contributors_insert hnew]
      simp [hnone]
  · have hregister : refs.register id (contributes id content) =
        (⟨refs.held.insert id (contributes id content),
          (retain refs.counts (contributes id content)).1⟩,
          (retain refs.counts (contributes id content)).2) := if_neg hnone
    rw [hregister]
    refine ⟨⟨fun other => ?_, fun a => ?_⟩, ?_⟩
    · rw [SortedMap.get?_insert, SortedMap.get?_insert]
      by_cases hid : id = other
      · subst hid
        simp [hnone, Option.filter]
      · rw [if_neg hid, if_neg hid]
        exact h.held other
    · rw [get?_retain hnodup, contributors_insert hnew, h.getD_counts]
      by_cases ha : a ∈ contributes id content
      · simp [ha]
      · simp [ha, h.counts a]
    · rw [added_retain hnodup]
      refine List.filter_congr fun a _ => ?_
      rw [decide_eq_decide]
      exact hadded a

/-- Unregistering takes the contribution of the id away. -/
theorem Tracks.unregister (h : Tracks contributes registered refs) (id : ι)
    (hnodup : ∀ content, (contributes id content).Nodup) :
    Tracks contributes (registered.erase id) (refs.unregister id) := by
  unfold RefCounts.unregister
  cases hget : registered.get? id with
  | none =>
      have hheld : refs.held.get? id = none := by
        rw [h.held, hget]
        rfl
      rw [hheld, SortedMap.erase_of_get?_none hget]
      exact h
  | some content =>
      have hcount := @contributors_erase _ _ _ _ _ contributes _ _ _ hget
      by_cases hnone : contributes id content = []
      · have hheld : refs.held.get? id = none := by
          rw [h.held, hget]
          simp [hnone]
        rw [hheld]
        refine ⟨fun other => ?_, fun a => ?_⟩
        · rw [h.held, SortedMap.get?_erase]
          by_cases hid : id = other
          · subst hid
            rw [if_pos rfl, hget]
            simp [hnone]
          · rw [if_neg hid]
        · rw [h.counts, hcount a]
          simp [hnone]
      · have hheld : refs.held.get? id = some (contributes id content) := by
          rw [h.held, hget]
          simp [hnone]
        rw [hheld]
        refine ⟨fun other => ?_, fun a => ?_⟩
        · rw [SortedMap.get?_erase, SortedMap.get?_erase]
          by_cases hid : id = other
          · simp [hid]
          · rw [if_neg hid, if_neg hid]
            exact h.held other
        · rw [get?_release (hnodup content), h.counts, hcount a]
          by_cases ha : a ∈ contributes id content
          · simp [ha]
          · simp [ha]

/-! Replacing what an id contributes. -/

/-- Drop the id, then register it again. -/
def replace (refs : RefCounts ι α) (id : ι) (values : List α) : RefCounts ι α × List α :=
  (refs.unregister id).register id values

/-- `added` lists what is tracked after a step and was not before, each value once. -/
def NewlyTracked (before after : RefCounts ι α) (added : List α) : Prop :=
  added.Nodup ∧ ∀ a, a ∈ added ↔ a ∈ after.tracked ∧ a ∉ before.tracked

/-- The new content contributes a value that only the old content of the id contributed. -/
def Renews (contributes : ι → φ → List α) (registered : SortedMap ι φ) (id : ι) (content : φ) :
    Prop :=
  ∃ old a, registered.get? id = some old ∧ a ∈ contributes id old ∧ a ∈ contributes id content ∧
    ∀ other otherContent, other ≠ id → registered.get? other = some otherContent →
      a ∉ contributes other otherContent

theorem erase_insert (m : SortedMap ι φ) (id : ι) (content : φ) :
    (m.erase id).insert id content = m.insert id content := by
  refine SortedMap.ext_get? fun other => ?_
  rw [SortedMap.get?_insert, SortedMap.get?_insert]
  by_cases hid : id = other
  · rw [if_pos hid, if_pos hid]
  · rw [if_neg hid, if_neg hid, SortedMap.get?_erase_ne _ hid]

theorem contributors_erase_eq_zero {id : ι} {a : α} :
    contributors contributes (registered.erase id) a = 0 ↔
      ∀ other content, other ≠ id → registered.get? other = some content →
        a ∉ contributes other content := by
  rw [← Nat.le_zero, ← not_lt, contributors_pos]
  constructor
  · intro hnone other content hne hget ha
    exact hnone ⟨other, content, by rw [SortedMap.get?_erase_ne _ hne.symm]; exact hget, ha⟩
  · rintro hnone ⟨other, content, hget, ha⟩
    rw [SortedMap.get?_erase] at hget
    split at hget
    · cases hget
    · rename_i hne
      exact hnone other content (Ne.symm hne) hget ha

theorem Tracks.replace (h : Tracks contributes registered refs) (id : ι) (content : φ)
    (hnodup : ∀ content, (contributes id content).Nodup) :
    Tracks contributes (registered.insert id content)
        (refs.replace id (contributes id content)).1 ∧
      (refs.replace id (contributes id content)).2 =
        (contributes id content).filter (fun a => a ∉ (refs.unregister id).tracked) := by
  obtain ⟨htracks, hadded⟩ := (h.unregister id hnodup).register
    (SortedMap.get?_erase_self registered id) (hnodup content)
  rw [erase_insert] at htracks
  exact ⟨htracks, hadded⟩

/-- What a replacement returns is what it newly tracks, unless it renews something. -/
theorem Tracks.newlyTracked_replace_iff (h : Tracks contributes registered refs) (id : ι)
    (content : φ) (hnodup : ∀ content, (contributes id content).Nodup) :
    NewlyTracked refs (refs.replace id (contributes id content)).1
        (refs.replace id (contributes id content)).2 ↔
      ¬ Renews contributes registered id content := by
  obtain ⟨hafter, hadded⟩ := h.replace id content hnodup
  have hmid := h.unregister id hnodup
  have hmem : ∀ a, a ∈ (refs.replace id (contributes id content)).2 ↔
      a ∈ contributes id content ∧ contributors contributes (registered.erase id) a = 0 := by
    intro a
    rw [hadded, List.mem_filter, decide_eq_true_eq, hmid.mem_tracked, Nat.not_lt, Nat.le_zero]
  have htracked : ∀ a, a ∈ (refs.replace id (contributes id content)).1.tracked ↔
      0 < contributors contributes (registered.erase id) a ∨ a ∈ contributes id content := by
    intro a
    rw [hafter.mem_tracked, ← erase_insert,
      contributors_insert (SortedMap.get?_erase_self registered id)]
    split
    · rename_i ha
      simp [ha]
    · rename_i ha
      simp [ha]
  have hbefore : ∀ a, a ∈ refs.tracked ↔
      0 < contributors contributes (registered.erase id) a ∨
        ∃ old, registered.get? id = some old ∧ a ∈ contributes id old := by
    intro a
    rw [h.mem_tracked]
    cases hget : registered.get? id with
    | none => simp [SortedMap.erase_of_get?_none hget]
    | some old =>
        rw [contributors_erase hget]
        split
        · rename_i ha
          simp [ha]
        · rename_i ha
          simp [ha]
  constructor
  · rintro ⟨-, hexact⟩ ⟨old, a, hget, hold, hnew, hothers⟩
    have hzero := contributors_erase_eq_zero.mpr hothers
    exact ((hexact a).mp ((hmem a).mpr ⟨hnew, hzero⟩)).2 ((hbefore a).mpr (Or.inr ⟨old, hget, hold⟩))
  · intro hnot
    refine ⟨?_, fun a => ?_⟩
    · rw [hadded]
      exact (hnodup content).filter _
    · rw [hmem, htracked, hbefore]
      constructor
      · rintro ⟨hnew, hzero⟩
        refine ⟨Or.inr hnew, ?_⟩
        rintro (hpos | ⟨old, hget, hold⟩)
        · omega
        · exact hnot ⟨old, a, hget, hold, hnew, contributors_erase_eq_zero.mp hzero⟩
      · rintro ⟨hpos | hnew, hfresh⟩
        · exact absurd (Or.inl hpos) hfresh
        · refine ⟨hnew, ?_⟩
          by_contra hpos
          exact hfresh (Or.inl (Nat.pos_of_ne_zero hpos))

/-- What a registration under a new id returns is what it newly tracks. -/
theorem Tracks.newlyTracked_register (h : Tracks contributes registered refs) {id : ι}
    (hnew : registered.get? id = none) {content : φ} (hnodup : (contributes id content).Nodup) :
    NewlyTracked refs (refs.register id (contributes id content)).1
      (refs.register id (contributes id content)).2 := by
  obtain ⟨hafter, hadded⟩ := h.register hnew hnodup
  refine ⟨?_, fun a => ?_⟩
  · rw [hadded]
    exact hnodup.filter _
  · rw [hadded, List.mem_filter, decide_eq_true_eq, hafter.mem_tracked, contributors_insert hnew,
      h.mem_tracked]
    split
    · rename_i ha
      simp [ha]
    · rename_i ha
      simp only [ha, false_and, Nat.add_zero, false_iff, not_and, not_not]
      exact fun hpos => hpos

theorem NewlyTracked.perm {before after : RefCounts ι α} {added other : List α}
    (hperm : added.Perm other) : NewlyTracked before after added ↔
      NewlyTracked before after other := by
  unfold NewlyTracked
  rw [hperm.nodup_iff]
  simp only [hperm.mem_iff]

end RefCounts
