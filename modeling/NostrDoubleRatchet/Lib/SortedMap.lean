import Mathlib.Data.Finset.Card
import Mathlib.Data.List.Lemmas
import Mathlib.Data.List.Sort

/-!
Finite maps as association lists in strictly increasing key order. The order
invariant is a field, so two maps with the same lookups are equal and a walk
over the entries is a walk in key order. `pruneTo` drops the smallest keys
until at most a given number is left.
-/

/-- A finite map whose entries are listed by strictly increasing key. -/
structure SortedMap (α β : Type) [LinearOrder α] where
  entries : List (α × β)
  sorted : entries.Pairwise (fun a b => a.1 < b.1)

namespace SortedMap

variable {α β γ : Type} [LinearOrder α]

instance [DecidableEq β] : DecidableEq (SortedMap α β) := fun m n =>
  decidable_of_iff (m.entries = n.entries) (by cases m; cases n; simp)

/-- Keys are equal where their comparison says so: one proof for every search for a key. -/
theorem lawfulBEq : LawfulBEq α := inferInstance

def empty : SortedMap α β := ⟨[], List.Pairwise.nil⟩

instance : Inhabited (SortedMap α β) := ⟨empty⟩

def length (m : SortedMap α β) : Nat := m.entries.length

def keys (m : SortedMap α β) : List α := m.entries.map Prod.fst

def values (m : SortedMap α β) : List β := m.entries.map Prod.snd

def get? (m : SortedMap α β) (k : α) : Option β :=
  (m.entries.find? (fun e => e.1 = k)).map Prod.snd

def contains (m : SortedMap α β) (k : α) : Bool := (m.get? k).isSome

theorem eq_of_entries {m n : SortedMap α β} (h : m.entries = n.entries) : m = n := by
  cases m
  cases n
  cases h
  rfl

theorem nodup_keys (m : SortedMap α β) : m.keys.Nodup := by
  unfold keys
  rw [List.Nodup, List.pairwise_map]
  exact m.sorted.imp (fun h => ne_of_lt h)

theorem value_unique {m : SortedMap α β} {k : α} {v w : β}
    (hv : (k, v) ∈ m.entries) (hw : (k, w) ∈ m.entries) : v = w :=
  (Prod.ext_iff.mp (List.inj_on_of_nodup_map m.nodup_keys hv hw rfl)).2

/-- Membership in the entry list is lookup. -/
theorem mem_entries {m : SortedMap α β} {k : α} {v : β} :
    (k, v) ∈ m.entries ↔ m.get? k = some v := by
  unfold get?
  constructor
  · intro hmem
    cases hfind : m.entries.find? (fun e => e.1 = k) with
    | none =>
        have hall := List.find?_eq_none.mp hfind (k, v) hmem
        simp at hall
    | some e =>
        have hkey : e.1 = k := by simpa using List.find?_some hfind
        have he : (k, e.2) ∈ m.entries := by
          have := List.mem_of_find?_eq_some hfind
          rwa [← hkey]
        simp [value_unique he hmem]
  · intro hget
    obtain ⟨e, hfind, rfl⟩ := Option.map_eq_some_iff.mp hget
    have hkey : e.1 = k := by simpa using List.find?_some hfind
    subst hkey
    exact List.mem_of_find?_eq_some hfind

theorem get?_eq_none {m : SortedMap α β} {k : α} :
    m.get? k = none ↔ ∀ v, (k, v) ∉ m.entries := by
  constructor
  · intro hnone v hmem
    rw [mem_entries, hnone] at hmem
    cases hmem
  · intro hall
    cases hget : m.get? k with
    | none => rfl
    | some v => exact absurd (mem_entries.mpr hget) (hall v)

theorem mem_keys {m : SortedMap α β} {k : α} :
    k ∈ m.keys ↔ ∃ v, m.get? k = some v := by
  simp only [keys, List.mem_map, Prod.exists, exists_and_right, exists_eq_right, mem_entries]

/-- Two maps with the same lookups are the same map. -/
theorem ext_get? {m n : SortedMap α β} (h : ∀ k, m.get? k = n.get? k) : m = n := by
  have hmem : ∀ e, e ∈ m.entries ↔ e ∈ n.entries := by
    rintro ⟨k, v⟩
    rw [mem_entries, mem_entries, h]
  have hnodup : ∀ l : SortedMap α β, l.entries.Nodup :=
    fun l => List.Nodup.of_map Prod.fst l.nodup_keys
  apply eq_of_entries
  have hperm : m.entries.Perm n.entries :=
    (List.perm_ext_iff_of_nodup (hnodup m) (hnodup n)).mpr hmem
  exact hperm.eq_of_pairwise (fun a b _ _ hab hba => absurd hab (not_lt_of_gt hba))
    m.sorted n.sorted

@[simp] theorem get?_empty (k : α) : (empty : SortedMap α β).get? k = none := rfl

@[simp] theorem length_keys (m : SortedMap α β) : m.keys.length = m.length := by
  simp [keys, length]

/-! Insertion and removal. -/

def insertEntry (k : α) (v : β) : List (α × β) → List (α × β)
  | [] => [(k, v)]
  | e :: rest =>
      if k < e.1 then (k, v) :: e :: rest
      else if k = e.1 then (k, v) :: rest
      else e :: insertEntry k v rest

theorem mem_insertEntry {k : α} {v : β} {l : List (α × β)} {e : α × β}
    (h : e ∈ insertEntry k v l) : e = (k, v) ∨ e ∈ l := by
  induction l with
  | nil => simpa [insertEntry] using h
  | cons head rest ih =>
      unfold insertEntry at h
      split at h
      · simpa using h
      · split at h
        · rcases List.mem_cons.mp h with rfl | hrest
          · exact Or.inl rfl
          · exact Or.inr (List.mem_cons_of_mem _ hrest)
        · rcases List.mem_cons.mp h with rfl | hrest
          · exact Or.inr List.mem_cons_self
          · rcases ih hrest with heq | hold
            · exact Or.inl heq
            · exact Or.inr (List.mem_cons_of_mem _ hold)

theorem insertEntry_sorted (k : α) (v : β) {l : List (α × β)}
    (h : l.Pairwise (fun a b => a.1 < b.1)) :
    (insertEntry k v l).Pairwise (fun a b => a.1 < b.1) := by
  induction l with
  | nil => simp [insertEntry]
  | cons head rest ih =>
      obtain ⟨hhead, hrest⟩ := List.pairwise_cons.mp h
      unfold insertEntry
      split
      · rename_i hlt
        refine List.pairwise_cons.mpr ⟨?_, h⟩
        intro e he
        rcases List.mem_cons.mp he with rfl | he
        · exact hlt
        · exact hlt.trans (hhead e he)
      · rename_i hnlt
        split
        · rename_i heq
          subst heq
          exact List.pairwise_cons.mpr ⟨hhead, hrest⟩
        · rename_i hne
          refine List.pairwise_cons.mpr ⟨?_, ih hrest⟩
          intro e he
          rcases mem_insertEntry he with rfl | he
          · exact lt_of_le_of_ne (not_lt.mp hnlt) (fun h => hne h.symm)
          · exact hhead e he

/-- Insert a value, replacing the one already stored for that key. -/
def insert (m : SortedMap α β) (k : α) (v : β) : SortedMap α β :=
  ⟨insertEntry k v m.entries, insertEntry_sorted k v m.sorted⟩

theorem find?_insertEntry (k k' : α) (v : β) {l : List (α × β)}
    (h : l.Pairwise (fun a b => a.1 < b.1)) :
    ((insertEntry k v l).find? (fun e => e.1 = k')).map Prod.snd =
      if k = k' then some v else (l.find? (fun e => e.1 = k')).map Prod.snd := by
  induction l with
  | nil => by_cases hk : k = k' <;> simp [insertEntry, hk]
  | cons head rest ih =>
      obtain ⟨hhead, hrest⟩ := List.pairwise_cons.mp h
      unfold insertEntry
      split
      · by_cases hk : k = k' <;> simp [hk]
      · split
        · rename_i heq
          subst heq
          by_cases hk : head.1 = k' <;> simp [hk]
        · rename_i hne
          by_cases hh : head.1 = k'
          · have hk : ¬ k = k' := fun h => hne (h.trans hh.symm)
            simp [hh, hk]
          · simpa [List.find?_cons, hh] using ih hrest

theorem get?_insert (m : SortedMap α β) (k k' : α) (v : β) :
    (m.insert k v).get? k' = if k = k' then some v else m.get? k' :=
  find?_insertEntry k k' v m.sorted

@[simp] theorem get?_insert_self (m : SortedMap α β) (k : α) (v : β) :
    (m.insert k v).get? k = some v := by
  simp [get?_insert]

theorem get?_insert_ne (m : SortedMap α β) {k k' : α} (v : β) (h : k ≠ k') :
    (m.insert k v).get? k' = m.get? k' := by
  simp [get?_insert, h]

theorem forall_get?_insert {m : SortedMap α β} {P : α → β → Prop} {k : α} {v : β}
    (h : ∀ k' v', m.get? k' = some v' → P k' v') (hnew : P k v) :
    ∀ k' v', (m.insert k v).get? k' = some v' → P k' v' := by
  intro k' v' hget
  rw [get?_insert] at hget
  split at hget
  · cases hget
    subst k'
    exact hnew
  · exact h k' v' hget

theorem insert_insert (m : SortedMap α β) (k : α) (v w : β) :
    (m.insert k v).insert k w = m.insert k w := by
  apply ext_get?
  intro k'
  simp only [get?_insert]
  split <;> rfl

def filter (m : SortedMap α β) (p : α → β → Bool) : SortedMap α β :=
  ⟨m.entries.filter (fun e => p e.1 e.2), m.sorted.filter _⟩

theorem mem_filter {m : SortedMap α β} {p : α → β → Bool} {k : α} {v : β} :
    (m.filter p).get? k = some v ↔ m.get? k = some v ∧ p k v = true := by
  rw [← mem_entries, ← mem_entries]
  simp [filter]

def erase (m : SortedMap α β) (k : α) : SortedMap α β :=
  m.filter (fun k' _ => k' ≠ k)

theorem get?_erase (m : SortedMap α β) (k k' : α) :
    (m.erase k).get? k' = if k = k' then none else m.get? k' := by
  apply Option.ext
  intro v
  rw [erase, mem_filter]
  by_cases hk : k = k'
  · simp [hk]
  · simp [hk, Ne.symm hk]

@[simp] theorem get?_erase_self (m : SortedMap α β) (k : α) :
    (m.erase k).get? k = none := by
  simp [get?_erase]

theorem get?_erase_ne (m : SortedMap α β) {k k' : α} (h : k ≠ k') :
    (m.erase k).get? k' = m.get? k' := by
  simp [get?_erase, h]

theorem forall_get?_erase {m : SortedMap α β} {P : α → β → Prop} {k : α}
    (h : ∀ k' v', m.get? k' = some v' → P k' v') :
    ∀ k' v', (m.erase k).get? k' = some v' → P k' v' := by
  intro k' v' hget
  rw [get?_erase] at hget
  split at hget
  · cases hget
  · exact h k' v' hget

theorem erase_of_get?_none {m : SortedMap α β} {k : α} (h : m.get? k = none) :
    m.erase k = m := by
  apply ext_get?
  intro k'
  by_cases hk : k = k'
  · rw [← hk, get?_erase_self, h]
  · rw [get?_erase_ne m hk]

/-- Change every value, keeping the keys. -/
def mapValues (m : SortedMap α β) (f : α → β → γ) : SortedMap α γ :=
  ⟨m.entries.map (fun e => (e.1, f e.1 e.2)), by
    rw [List.pairwise_map]
    exact m.sorted⟩

theorem get?_mapValues (m : SortedMap α β) (f : α → β → γ) (k : α) :
    (m.mapValues f).get? k = (m.get? k).map (f k) := by
  apply Option.ext
  intro v
  rw [← mem_entries]
  constructor
  · intro hmem
    obtain ⟨e, he, heq⟩ := List.mem_map.mp hmem
    obtain ⟨rfl, rfl⟩ := Prod.ext_iff.mp heq
    rw [mem_entries.mp he]
    rfl
  · intro hget
    obtain ⟨w, hw, rfl⟩ := Option.map_eq_some_iff.mp hget
    exact List.mem_map.mpr ⟨(k, w), mem_entries.mpr hw, rfl⟩

@[simp] theorem keys_mapValues (m : SortedMap α β) (f : α → β → γ) :
    (m.mapValues f).keys = m.keys := by
  simp [keys, mapValues]

/-- Collect entries one by one; a later entry replaces an earlier one. -/
def ofList (l : List (α × β)) : SortedMap α β :=
  l.foldl (fun m e => m.insert e.1 e.2) empty

theorem insertEntry_of_forall_lt {k : α} {v : β} {l : List (α × β)}
    (h : ∀ e ∈ l, e.1 < k) : insertEntry k v l = l ++ [(k, v)] := by
  induction l with
  | nil => rfl
  | cons e rest ih =>
      have hlt : e.1 < k := h e List.mem_cons_self
      rw [insertEntry, if_neg hlt.not_gt, if_neg hlt.ne',
        ih (fun x hx => h x (List.mem_cons_of_mem _ hx)), List.cons_append]

private theorem entries_foldl_insert (l : List (α × β)) (m : SortedMap α β)
    (h : (m.entries ++ l).Pairwise (fun a b => a.1 < b.1)) :
    (l.foldl (fun m e => m.insert e.1 e.2) m).entries = m.entries ++ l := by
  induction l generalizing m with
  | nil => simp
  | cons e rest ih =>
      have hinsert : (m.insert e.1 e.2).entries = m.entries ++ [e] :=
        insertEntry_of_forall_lt (fun x hx => (List.pairwise_append.mp h).2.2 x hx e
          List.mem_cons_self)
      rw [List.foldl_cons, ih, hinsert, List.append_assoc, List.singleton_append]
      rw [hinsert, List.append_assoc]
      exact h

/-- Collecting entries that are already in order keeps the list as it is. -/
theorem entries_ofList {l : List (α × β)} (h : l.Pairwise (fun a b => a.1 < b.1)) :
    (ofList l).entries = l :=
  entries_foldl_insert l empty h

theorem mem_values {m : SortedMap α β} {v : β} : v ∈ m.values ↔ ∃ k, m.get? k = some v := by
  simp only [values, List.mem_map, Prod.exists, exists_eq_right, mem_entries]

/-- Each item updates the entry of its own key, so the entry of a key is what the
items of that key make of it. -/
theorem get?_foldl_update (key : γ → α) (f : γ → Option β → β) (items : List γ)
    (m : SortedMap α β) (k : α) :
    (items.foldl (fun m x => m.insert (key x) (f x (m.get? (key x)))) m).get? k =
      (items.filter (fun x => key x = k)).foldl (fun v x => some (f x v)) (m.get? k) := by
  induction items generalizing m with
  | nil => rfl
  | cons x rest ih =>
      rw [List.foldl_cons, ih, get?_insert, List.filter_cons]
      by_cases hkey : key x = k
      · subst hkey
        simp only [if_true, decide_true, List.foldl_cons]
      · simp only [if_neg hkey, decide_eq_true_eq]

theorem get?_foldl_insert (items : List α) (v : β) (m : SortedMap α β) (k : α) :
    (items.foldl (fun m a => m.insert a v) m).get? k =
      if k ∈ items then some v else m.get? k := by
  induction items generalizing m with
  | nil => simp
  | cons a rest ih =>
      rw [List.foldl_cons, ih, get?_insert]
      by_cases hrest : k ∈ rest
      · simp [hrest]
      · by_cases ha : a = k
        · simp [ha]
        · simp [hrest, ha, Ne.symm ha]

theorem get?_foldl_erase (l : List α) (m : SortedMap α β) (k : α) :
    (l.foldl erase m).get? k = if k ∈ l then none else m.get? k := by
  induction l generalizing m with
  | nil => simp
  | cons a rest ih =>
      rw [List.foldl_cons, ih, get?_erase]
      by_cases hmem : k ∈ rest
      · simp [hmem]
      · by_cases hkey : a = k
        · simp [hkey]
        · simp [hmem, hkey, Ne.symm hkey]

theorem mem_of_get?_ofList {l : List (α × β)} {k : α} {v : β} (h : (ofList l).get? k = some v) :
    (k, v) ∈ l := by
  unfold ofList at h
  induction l using List.reverseRecOn with
  | nil => cases h
  | append_singleton l e ih =>
      rw [List.foldl_append, List.foldl_cons, List.foldl_nil, get?_insert] at h
      by_cases hkey : e.1 = k
      · rw [if_pos hkey] at h
        cases h
        rw [← hkey]
        exact List.mem_append_right _ List.mem_cons_self
      · rw [if_neg hkey] at h
        exact List.mem_append_left _ (ih h)

theorem mem_keys_ofList {l : List (α × β)} {k : α} :
    k ∈ (ofList l).keys ↔ k ∈ l.map Prod.fst := by
  unfold ofList
  induction l using List.reverseRecOn with
  | nil => rfl
  | append_singleton l e ih =>
      rw [List.foldl_append, List.foldl_cons, List.foldl_nil, List.map_append, List.mem_append,
        ← ih, mem_keys, mem_keys]
      by_cases hkey : e.1 = k
      · simp [hkey]
      · simp [get?_insert, hkey, Ne.symm hkey]

/-! Pruning from the small end. -/

def dropFirst (m : SortedMap α β) : SortedMap α β :=
  ⟨m.entries.tail, m.sorted.sublist (List.tail_sublist _)⟩

/-- Remove the smallest key until at most `cap` keys are left. -/
def pruneTo (cap : Nat) (m : SortedMap α β) : SortedMap α β :=
  dropFirst^[m.length - cap] m

/-- How many keys are larger than `k`. -/
def countAbove (m : SortedMap α β) (k : α) : Nat :=
  m.entries.countP (fun e => k < e.1)

theorem entries_iterate_dropFirst (n : Nat) (m : SortedMap α β) :
    (dropFirst^[n] m).entries = m.entries.drop n := by
  induction n generalizing m with
  | zero => rfl
  | succ n ih => rw [Function.iterate_succ_apply, ih, dropFirst, List.drop_tail]

theorem entries_pruneTo (cap : Nat) (m : SortedMap α β) :
    (m.pruneTo cap).entries = m.entries.drop (m.length - cap) :=
  entries_iterate_dropFirst _ m

theorem length_pruneTo (cap : Nat) (m : SortedMap α β) :
    (m.pruneTo cap).length = min cap m.length := by
  have hlen : m.entries.length = m.length := rfl
  rw [length, entries_pruneTo, List.length_drop, hlen]
  omega

theorem pruneTo_of_le {cap : Nat} {m : SortedMap α β} (h : m.length ≤ cap) :
    m.pruneTo cap = m := by
  apply eq_of_entries
  rw [entries_pruneTo, Nat.sub_eq_zero_of_le h, List.drop_zero]

private theorem countP_lt_of_mem {l : List (α × β)} {e : α × β} (h : e ∈ l) :
    l.countP (fun x => e.1 < x.1) < l.length := by
  apply lt_of_le_of_ne List.countP_le_length
  intro heq
  have hall := List.countP_eq_length.mp heq e h
  simp at hall

private theorem mem_drop_sorted {l : List (α × β)}
    (h : l.Pairwise (fun a b => a.1 < b.1)) (i : Nat) (e : α × β) :
    e ∈ l.drop i ↔ e ∈ l ∧ l.countP (fun x => e.1 < x.1) < l.length - i := by
  induction l generalizing i with
  | nil => simp
  | cons head rest ih =>
      obtain ⟨hhead, hrest⟩ := List.pairwise_cons.mp h
      cases i with
      | zero =>
          simp only [List.drop_zero, Nat.sub_zero]
          exact ⟨fun hmem => ⟨hmem, countP_lt_of_mem hmem⟩, And.left⟩
      | succ i =>
          rw [List.drop_succ_cons, ih hrest, List.countP_cons, List.length_cons,
            Nat.add_sub_add_right]
          constructor
          · rintro ⟨hmem, hcount⟩
            have hlt := hhead e hmem
            refine ⟨List.mem_cons_of_mem _ hmem, ?_⟩
            simpa [not_lt_of_gt hlt] using hcount
          · rintro ⟨hmem, hcount⟩
            rcases List.mem_cons.mp hmem with rfl | hmem
            · have hall : rest.countP (fun x => e.1 < x.1) = rest.length := by
                rw [List.countP_eq_length]
                intro x hx
                simpa using hhead x hx
              rw [hall] at hcount
              omega
            · exact ⟨hmem, by omega⟩

private theorem countP_drop_sorted {l : List (α × β)}
    (h : l.Pairwise (fun a b => a.1 < b.1)) (i : Nat) (k : α) :
    (l.drop i).countP (fun x => k < x.1) =
      min (l.length - i) (l.countP (fun x => k < x.1)) := by
  induction l generalizing i with
  | nil => simp
  | cons head rest ih =>
      obtain ⟨hhead, hrest⟩ := List.pairwise_cons.mp h
      cases i with
      | zero =>
          rw [List.drop_zero, Nat.sub_zero]
          exact (min_eq_right List.countP_le_length).symm
      | succ i =>
          rw [List.drop_succ_cons, ih hrest, List.countP_cons, List.length_cons,
            Nat.add_sub_add_right]
          by_cases hk : k < head.1
          · have hall : rest.countP (fun x => k < x.1) = rest.length := by
              rw [List.countP_eq_length]
              intro x hx
              simpa using hk.trans (hhead x hx)
            simp only [hall, hk, decide_true, if_true]
            omega
          · simp [hk]

/-- Pruning keeps exactly the keys with fewer than `cap` larger ones. -/
theorem get?_pruneTo (cap : Nat) (m : SortedMap α β) (k : α) :
    (m.pruneTo cap).get? k = if m.countAbove k < cap then m.get? k else none := by
  have hlen : m.entries.length = m.length := rfl
  have hmem : ∀ v, (m.pruneTo cap).get? k = some v ↔
      m.get? k = some v ∧ m.countAbove k < cap := by
    intro v
    rw [← mem_entries, entries_pruneTo, mem_drop_sorted m.sorted, mem_entries, hlen]
    change _ ∧ m.countAbove k < _ ↔ _
    constructor
    · rintro ⟨hget, hcount⟩
      exact ⟨hget, by omega⟩
    · rintro ⟨hget, hcount⟩
      have hbound : m.countAbove k < m.length := countP_lt_of_mem (mem_entries.mpr hget)
      exact ⟨hget, by omega⟩
  apply Option.ext
  intro v
  rw [hmem]
  by_cases hcount : m.countAbove k < cap <;> simp [hcount]

theorem countAbove_pruneTo (cap : Nat) (m : SortedMap α β) (k : α) :
    (m.pruneTo cap).countAbove k = min cap (m.countAbove k) := by
  have hlen : m.entries.length = m.length := rfl
  have hbound : m.countAbove k ≤ m.length := List.countP_le_length
  rw [countAbove, entries_pruneTo, countP_drop_sorted m.sorted, hlen]
  unfold countAbove at hbound ⊢
  omega

private theorem countP_insertEntry (k k' : α) (v : β) {l : List (α × β)}
    (h : l.Pairwise (fun a b => a.1 < b.1)) :
    (insertEntry k v l).countP (fun e => k' < e.1) =
      l.countP (fun e => k' < e.1) +
        if k' < k ∧ (l.find? (fun e => e.1 = k)).isNone then 1 else 0 := by
  induction l with
  | nil => simp [insertEntry]
  | cons head rest ih =>
      obtain ⟨hhead, hrest⟩ := List.pairwise_cons.mp h
      unfold insertEntry
      split
      · rename_i hlt
        have hnone : (head :: rest).find? (fun e => e.1 = k) = none := by
          rw [List.find?_eq_none]
          intro e he
          rcases List.mem_cons.mp he with rfl | he
          · simp [ne_of_gt hlt]
          · simp [ne_of_gt (hlt.trans (hhead e he))]
        rw [hnone, List.countP_cons]
        simp
      · split
        · rename_i heq
          subst heq
          simp [List.countP_cons]
        · rename_i hne
          have hskip : (head :: rest).find? (fun e => e.1 = k) =
              rest.find? (fun e => e.1 = k) :=
            List.find?_cons_of_neg (by simpa using Ne.symm hne)
          rw [List.countP_cons, List.countP_cons, ih hrest, hskip]
          omega

theorem countAbove_insert (m : SortedMap α β) (k k' : α) (v : β) :
    (m.insert k v).countAbove k' =
      m.countAbove k' + if k' < k ∧ (m.get? k).isNone then 1 else 0 := by
  have hnone : (m.get? k).isNone = (m.entries.find? (fun e => e.1 = k)).isNone := by
    simp [get?]
  rw [hnone]
  exact countP_insertEntry k k' v m.sorted

/-- Counting the larger keys is counting the larger members of any set that
agrees with the map above `k`. -/
theorem countAbove_eq_card (m : SortedMap α β) (k : α) (s : Finset α)
    (h : ∀ x, k < x → (x ∈ s ↔ (m.get? x).isSome)) :
    m.countAbove k = (s.filter (k < ·)).card := by
  have hcount : m.countAbove k = (m.keys.filter (k < ·)).length := by
    rw [countAbove, keys, List.countP_eq_length_filter, List.filter_map, List.length_map]
    rfl
  have hnodup : (m.keys.filter (k < ·)).Nodup := m.nodup_keys.filter _
  rw [hcount, ← List.toFinset_card_of_nodup hnodup]
  congr 1
  ext x
  simp only [List.mem_toFinset, List.mem_filter, mem_keys, decide_eq_true_eq,
    Finset.mem_filter]
  constructor
  · rintro ⟨⟨v, hv⟩, hlt⟩
    exact ⟨(h x hlt).mpr (by rw [hv]; rfl), hlt⟩
  · rintro ⟨hmem, hlt⟩
    exact ⟨Option.isSome_iff_exists.mp ((h x hlt).mp hmem), hlt⟩

/-- Pruning before an insertion does not change what is left after it. -/
theorem pruneTo_insert_pruneTo (cap : Nat) (m : SortedMap α β) (k : α) (v : β) :
    ((m.pruneTo cap).insert k v).pruneTo cap = (m.insert k v).pruneTo cap := by
  apply ext_get?
  intro x
  rw [get?_pruneTo, get?_pruneTo, countAbove_insert, countAbove_insert,
    countAbove_pruneTo, get?_insert, get?_insert, get?_pruneTo, get?_pruneTo]
  by_cases hk : m.countAbove k < cap
  · simp only [hk, if_true]
    by_cases hx : m.countAbove x < cap
    · rw [min_eq_right hx.le]
      simp [hx]
    · rw [min_eq_left (not_lt.mp hx)]
      have h1 : ∀ d, ¬ cap + d < cap := by omega
      have h2 : ∀ d, ¬ m.countAbove x + d < cap := by omega
      simp [h1, h2]
  · -- `k` itself is dropped, so nothing below it survives on either side
    rcases lt_trichotomy x k with hlt | rfl | hgt
    · have hmono : m.countAbove k ≤ m.countAbove x := by
        unfold countAbove
        apply List.countP_mono_left
        intro e _ he
        simpa using hlt.trans (by simpa using he)
      have h2 : ∀ d, ¬ min cap (m.countAbove x) + d < cap := by omega
      have h3 : ∀ d, ¬ m.countAbove x + d < cap := by omega
      simp [h2, h3]
    · have h2 : ¬ min cap (m.countAbove x) < cap := by omega
      simp [hk, h2]
    · have hne : ¬ k = x := ne_of_lt hgt
      have hnlt : ¬ x < k := not_lt_of_gt hgt
      by_cases hx : m.countAbove x < cap
      · simp [hne, hnlt, hx]
      · simp [hnlt, hx]

end SortedMap
