import Mathlib.Data.List.Nodup

/-!
Maps that list their keys in the order in which they first came in. A key that is set again
keeps its place.
-/

structure InsertionMap (α β : Type) where
  entries : List (α × β)
  nodup : (entries.map Prod.fst).Nodup

namespace InsertionMap

variable {α β : Type}

def empty : InsertionMap α β := ⟨[], List.nodup_nil⟩

def keys (m : InsertionMap α β) : List α := m.entries.map Prod.fst

def values (m : InsertionMap α β) : List β := m.entries.map Prod.snd

variable [DecidableEq α]

def get? (m : InsertionMap α β) (k : α) : Option β :=
  (m.entries.find? (fun entry => entry.1 = k)).map Prod.snd

def setEntry (k : α) (v : β) : List (α × β) → List (α × β)
  | [] => [(k, v)]
  | entry :: rest => if entry.1 = k then (k, v) :: rest else entry :: setEntry k v rest

theorem map_fst_setEntry (k : α) (v : β) (entries : List (α × β)) :
    (setEntry k v entries).map Prod.fst =
      if k ∈ entries.map Prod.fst then entries.map Prod.fst else entries.map Prod.fst ++ [k] := by
  induction entries with
  | nil => rfl
  | cons entry rest ih =>
      rw [setEntry]
      split
      · rename_i hkey
        simp [hkey]
      · rename_i hkey
        rw [List.map_cons, ih, List.map_cons]
        have hne : k ≠ entry.1 := fun h => hkey h.symm
        by_cases hmem : k ∈ rest.map Prod.fst
        · rw [if_pos hmem, if_pos (List.mem_cons_of_mem _ hmem)]
        · rw [if_neg hmem, if_neg (by rw [List.mem_cons, not_or]; exact ⟨hne, hmem⟩)]
          rfl

def set (m : InsertionMap α β) (k : α) (v : β) : InsertionMap α β where
  entries := setEntry k v m.entries
  nodup := by
    rw [map_fst_setEntry]
    split
    · exact m.nodup
    · rename_i hmem
      exact List.nodup_append.mpr ⟨m.nodup, List.nodup_singleton k, by
        intro a ha b hb
        rw [List.mem_singleton.mp hb]
        rintro rfl
        exact hmem ha⟩

theorem keys_set (m : InsertionMap α β) (k : α) (v : β) :
    (m.set k v).keys = if k ∈ m.keys then m.keys else m.keys ++ [k] :=
  map_fst_setEntry k v m.entries

@[simp] theorem get?_empty (k : α) : (empty : InsertionMap α β).get? k = none := rfl

theorem get?_set (m : InsertionMap α β) (k k' : α) (v : β) :
    (m.set k v).get? k' = if k = k' then some v else m.get? k' := by
  change ((setEntry k v m.entries).find? _).map Prod.snd = _
  unfold get?
  generalize m.entries = entries
  induction entries with
  | nil =>
      rw [setEntry, List.find?_cons]
      by_cases h : k = k'
      · simp [h]
      · simp [h]
  | cons entry rest ih =>
      rw [setEntry]
      by_cases hkey : entry.1 = k
      · rw [if_pos hkey, List.find?_cons, List.find?_cons]
        by_cases h : k = k'
        · simp [h]
        · have hne : entry.1 ≠ k' := hkey ▸ h
          simp [h, hne]
      · rw [if_neg hkey, List.find?_cons, List.find?_cons]
        by_cases hentry : entry.1 = k'
        · have hne : k ≠ k' := fun h => hkey (hentry.trans h.symm)
          simp [hentry, hne]
        · simpa [hentry] using ih

theorem mem_entries {m : InsertionMap α β} {k : α} {v : β} :
    (k, v) ∈ m.entries ↔ m.get? k = some v := by
  unfold get?
  have hnodup := m.nodup
  generalize m.entries = entries at hnodup ⊢
  induction entries with
  | nil => simp
  | cons entry rest ih =>
      rw [List.map_cons, List.nodup_cons] at hnodup
      rw [List.find?_cons, List.mem_cons]
      by_cases hkey : entry.1 = k
      · subst hkey
        have hnotin : (entry.1, v) ∉ rest := fun h =>
          hnodup.1 (List.mem_map.mpr ⟨_, h, rfl⟩)
        simp [hnotin, Prod.ext_iff, eq_comm]
      · have hne : (k, v) ≠ entry := fun h => hkey (congrArg Prod.fst h).symm
        simpa [hkey, hne] using ih hnodup.2

theorem mem_keys {m : InsertionMap α β} {k : α} : k ∈ m.keys ↔ (m.get? k).isSome = true := by
  rw [keys, List.mem_map, Option.isSome_iff_exists]
  constructor
  · rintro ⟨⟨_, v⟩, hmem, rfl⟩
    exact ⟨v, mem_entries.mp hmem⟩
  · rintro ⟨v, hv⟩
    exact ⟨(k, v), mem_entries.mpr hv, rfl⟩

theorem mem_values {m : InsertionMap α β} {v : β} : v ∈ m.values ↔ ∃ k, m.get? k = some v := by
  rw [values, List.mem_map]
  constructor
  · rintro ⟨⟨k, _⟩, hmem, rfl⟩
    exact ⟨k, mem_entries.mp hmem⟩
  · rintro ⟨k, hk⟩
    exact ⟨(k, v), mem_entries.mpr hk, rfl⟩

omit [DecidableEq α] in
theorem eq_of_entries {m n : InsertionMap α β} (h : m.entries = n.entries) : m = n := by
  cases m
  cases n
  cases h
  rfl

theorem setEntry_of_not_mem {k : α} {v : β} {entries : List (α × β)}
    (h : k ∉ entries.map Prod.fst) : setEntry k v entries = entries ++ [(k, v)] := by
  induction entries with
  | nil => rfl
  | cons entry rest ih =>
      rw [List.map_cons, List.mem_cons, not_or] at h
      rw [setEntry, if_neg (Ne.symm h.1), ih h.2]
      rfl

theorem mem_setEntry {k : α} {v : β} {entries : List (α × β)} {entry : α × β}
    (h : entry ∈ setEntry k v entries) : entry ∈ entries ∨ entry = (k, v) := by
  induction entries with
  | nil => exact Or.inr (List.mem_singleton.mp h)
  | cons head rest ih =>
      rw [setEntry] at h
      split at h
      · rcases List.mem_cons.mp h with heq | hmem
        · exact Or.inr heq
        · exact Or.inl (List.mem_cons_of_mem _ hmem)
      · rcases List.mem_cons.mp h with rfl | hmem
        · exact Or.inl List.mem_cons_self
        · exact (ih hmem).imp_left (List.mem_cons_of_mem _)

theorem forall_entries_set {m : InsertionMap α β} {p : α × β → Prop} {k : α} {v : β}
    (h : ∀ entry ∈ m.entries, p entry) (hnew : p (k, v)) :
    ∀ entry ∈ (m.set k v).entries, p entry := by
  intro entry hmem
  rcases mem_setEntry hmem with hold | rfl
  · exact h entry hold
  · exact hnew

/-- New keys come at the end. -/
theorem entries_foldl_set (entries : List (α × β)) (m : InsertionMap α β)
    (h : (m.keys ++ entries.map Prod.fst).Nodup) :
    (entries.foldl (fun map entry => map.set entry.1 entry.2) m).entries = m.entries ++ entries := by
  induction entries generalizing m with
  | nil => rw [List.foldl_nil, List.append_nil]
  | cons entry rest ih =>
      rw [List.map_cons, List.nodup_append] at h
      obtain ⟨hkeys, hrest, hdisjoint⟩ := h
      have hnew : entry.1 ∉ m.keys := fun hmem =>
        hdisjoint entry.1 hmem entry.1 List.mem_cons_self rfl
      have hentries : (m.set entry.1 entry.2).entries = m.entries ++ [entry] :=
        setEntry_of_not_mem hnew
      rw [List.foldl_cons, ih, hentries, List.append_assoc]
      · rfl
      · rw [keys_set, if_neg hnew, List.append_assoc]
        exact List.nodup_append.mpr ⟨hkeys, hrest, hdisjoint⟩

/-- A map is built again from its entries. -/
theorem foldl_set_entries (m : InsertionMap α β) :
    m.entries.foldl (fun map entry => map.set entry.1 entry.2) empty = m := by
  apply eq_of_entries
  rw [entries_foldl_set]
  · rfl
  · exact m.nodup

theorem setEntry_setEntry (k : α) (v w : β) (entries : List (α × β)) :
    setEntry k w (setEntry k v entries) = setEntry k w entries := by
  induction entries with
  | nil => simp [setEntry]
  | cons entry rest ih =>
      by_cases hkey : entry.1 = k
      · simp [setEntry, hkey]
      · simp [setEntry, hkey, ih]

theorem set_set (m : InsertionMap α β) (k : α) (v w : β) : (m.set k v).set k w = m.set k w :=
  eq_of_entries (setEntry_setEntry k v w m.entries)

def erase (m : InsertionMap α β) (k : α) : InsertionMap α β where
  entries := m.entries.filter (fun entry => entry.1 ≠ k)
  nodup := m.nodup.sublist (List.filter_sublist.map _)

end InsertionMap
