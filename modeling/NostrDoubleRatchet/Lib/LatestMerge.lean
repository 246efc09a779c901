import Mathlib.Order.Defs.LinearOrder
import Mathlib.Data.List.Perm.Basic
import Mathlib.Order.Lattice
import NostrDoubleRatchet.Lib.SortedMap

/-!
Two ways to combine observations so that their order does not matter: keeping the newest of
timestamped values and joining those of the same time, and keeping the earliest of the entries
under one key.
-/

namespace LatestMerge

section Latest

variable {τ μ : Type} [LinearOrder τ] (op : μ → μ → μ)

/-- A newer value replaces the current one, an older one is dropped, and one of the same time
is joined. -/
def latest (current : Option (τ × μ)) (incoming : τ × μ) : Option (τ × μ) :=
  match current with
  | none => some incoming
  | some current =>
      if incoming.1 > current.1 then some incoming
      else if incoming.1 < current.1 then some current
      else some (current.1, op current.2 incoming.2)

variable {op}

theorem latest_some_of_lt {t t' : τ} {m m' : μ} (h : t < t') :
    latest op (some (t, m)) (t', m') = some (t', m') := if_pos h

theorem latest_some_of_gt {t t' : τ} {m m' : μ} (h : t' < t) :
    latest op (some (t, m)) (t', m') = some (t, m) := by
  rw [latest, if_neg h.le.not_gt, if_pos h]

theorem latest_some_self {t : τ} {m m' : μ} :
    latest op (some (t, m)) (t, m') = some (t, op m m') := by
  rw [latest, if_neg (lt_irrefl _), if_neg (lt_irrefl _)]

variable [Std.Commutative op]

private theorem latest_comm (x y : τ × μ) :
    latest op (some x) y = latest op (some y) x := by
  obtain ⟨t, m⟩ := x
  obtain ⟨t', m'⟩ := y
  rcases lt_trichotomy t t' with hlt | rfl | hgt
  · rw [latest_some_of_lt hlt, latest_some_of_gt hlt]
  · rw [latest_some_self, latest_some_self, @Std.Commutative.comm _ op _ m m']
  · rw [latest_some_of_gt hgt, latest_some_of_lt hgt]

variable [Std.Associative op]

private theorem op_right_comm (a b c : μ) : op (op a b) c = op (op a c) b := by
  rw [@Std.Associative.assoc _ op _ a b c, @Std.Commutative.comm _ op _ b c,
    @Std.Associative.assoc _ op _ a c b]

/-- Two observations can be taken in either order. -/
theorem latest_right_comm (current : Option (τ × μ)) (x y : τ × μ) :
    latest op (latest op current x) y = latest op (latest op current y) x := by
  cases current with
  | none => exact latest_comm x y
  | some current =>
      obtain ⟨t, m⟩ := current
      obtain ⟨a, u⟩ := x
      obtain ⟨b, v⟩ := y
      rcases lt_trichotomy t a with hx | rfl | hx
      · rcases lt_trichotomy t b with hy | rfl | hy
        · rw [latest_some_of_lt hx, latest_some_of_lt hy, latest_comm (a, u) (b, v)]
        · rw [latest_some_of_lt hx, latest_some_self, latest_some_of_gt hx, latest_some_of_lt hx]
        · rw [latest_some_of_lt hx, latest_some_of_gt hy, latest_some_of_gt (hy.trans hx),
            latest_some_of_lt hx]
      · rcases lt_trichotomy t b with hy | rfl | hy
        · rw [latest_some_self, latest_some_of_lt hy, latest_some_of_lt hy, latest_some_of_gt hy]
        · rw [latest_some_self, latest_some_self, latest_some_self, latest_some_self]
          exact congrArg (fun joined => some (t, joined)) (op_right_comm m u v)
        · rw [latest_some_self, latest_some_of_gt hy, latest_some_of_gt hy, latest_some_self]
      · rcases lt_trichotomy t b with hy | rfl | hy
        · rw [latest_some_of_gt hx, latest_some_of_lt hy, latest_some_of_gt (hx.trans hy)]
        · rw [latest_some_of_gt hx, latest_some_self, latest_some_of_gt hx]
        · rw [latest_some_of_gt hx, latest_some_of_gt hy, latest_some_of_gt hx]

theorem foldl_latest_perm {first second : List (τ × μ)} (h : first.Perm second)
    (current : Option (τ × μ)) :
    first.foldl (latest op) current = second.foldl (latest op) current :=
  h.foldl_eq' (fun x _ y _ current => latest_right_comm current x y) current

omit [Std.Commutative op] [Std.Associative op] in
/-- A fold that acts on what is observed of its state like `latest` ends in what `latest` ends
in. -/
theorem foldl_observed {σ ι : Type} {step : Option σ → ι → σ} {observe : σ → τ × μ}
    {read : ι → τ × μ} {I : σ → Prop} {J : ι → Prop}
    (hnone : ∀ item, J item → I (step none item) ∧ observe (step none item) = read item)
    (hsome : ∀ state item, I state → J item → I (step (some state) item) ∧
      some (observe (step (some state) item)) = latest op (some (observe state)) (read item))
    {items : List ι} (hitems : ∀ item ∈ items, J item) :
    (items.foldl (fun current item => some (step current item)) none).map observe =
      (items.map read).foldl (latest op) none := by
  have hrest : ∀ (items : List ι) (state : σ), I state → (∀ item ∈ items, J item) →
      (items.foldl (fun current item => some (step current item)) (some state)).map observe =
        (items.map read).foldl (latest op) (some (observe state)) := by
    intro items
    induction items with
    | nil => exact fun _ _ _ => rfl
    | cons item rest ih =>
        intro state hstate hitems
        obtain ⟨hnext, hobserved⟩ := hsome state item hstate (hitems item List.mem_cons_self)
        rw [List.foldl_cons, List.map_cons, List.foldl_cons,
          ih _ hnext fun later hlater => hitems later (List.mem_cons_of_mem _ hlater), hobserved]
  cases items with
  | nil => rfl
  | cons item rest =>
      obtain ⟨hfirst, hobserved⟩ := hnone item (hitems item List.mem_cons_self)
      rw [List.foldl_cons, List.map_cons, List.foldl_cons,
        hrest rest _ hfirst fun later hlater => hitems later (List.mem_cons_of_mem _ hlater),
        hobserved]
      rfl

end Latest

section Earliest

variable {α β : Type} [LinearOrder α] (key : β → α) (time : β → Nat)

/-- Of the entries under one key the earliest is kept. -/
def keepEarliest (map : SortedMap α β) (entry : β) : SortedMap α β :=
  match map.get? (key entry) with
  | none => map.insert (key entry) entry
  | some existing => if time entry < time existing then map.insert (key entry) entry else map

/-- The earliest time of the entries under a key. -/
def earliest (k : α) (entries : List β) : Option Nat :=
  entries.foldr (fun entry rest =>
    Option.merge min (if key entry = k then some (time entry) else none) rest) none

theorem merge_min_comm (a b : Option Nat) : Option.merge min a b = Option.merge min b a := by
  cases a with
  | none => simp
  | some a =>
      cases b with
      | none => simp
      | some b => exact congrArg some (min_comm a b)

theorem merge_min_assoc (a b c : Option Nat) :
    Option.merge min (Option.merge min a b) c = Option.merge min a (Option.merge min b c) := by
  cases a with
  | none => simp
  | some a =>
      cases b with
      | none => simp
      | some b =>
          cases c with
          | none => simp
          | some c => exact congrArg some (min_assoc a b c)

/-- Entries are stored under their keys. -/
def Keyed (map : SortedMap α β) : Prop := ∀ k entry, map.get? k = some entry → key entry = k

theorem Keyed.empty : Keyed key (SortedMap.empty : SortedMap α β) := fun _ _ h => by cases h

variable {key} in
theorem Keyed.insert {map : SortedMap α β} (h : Keyed key map) (entry : β) :
    Keyed key (map.insert (key entry) entry) :=
  SortedMap.forall_get?_insert h rfl

variable {key} in
theorem Keyed.foldl_insert {map : SortedMap α β} (h : Keyed key map) (entries : List β) :
    Keyed key (entries.foldl (fun map entry => map.insert (key entry) entry) map) := by
  induction entries generalizing map with
  | nil => exact h
  | cons entry rest ih => exact ih (h.insert entry)

variable {key} in
theorem Keyed.foldl_keepEarliest {map : SortedMap α β} (h : Keyed key map) (entries : List β) :
    Keyed key (entries.foldl (keepEarliest key time) map) := by
  induction entries generalizing map with
  | nil => exact h
  | cons entry rest ih =>
      refine ih ?_
      unfold keepEarliest
      split
      · exact h.insert entry
      · split
        · exact h.insert entry
        · exact h

theorem map_time_keepEarliest (map : SortedMap α β) (entry : β) (k : α) :
    ((keepEarliest key time map entry).get? k).map time =
      Option.merge min ((map.get? k).map time)
        (if key entry = k then some (time entry) else none) := by
  unfold keepEarliest
  by_cases hk : key entry = k
  · subst hk
    rw [if_pos rfl]
    cases hget : map.get? (key entry) with
    | none =>
        rw [SortedMap.get?_insert_self]
        rfl
    | some existing =>
        dsimp only
        split
        · rename_i hlt
          rw [SortedMap.get?_insert_self]
          exact congrArg some (min_eq_right hlt.le).symm
        · rename_i hle
          rw [hget]
          exact congrArg some (min_eq_left (not_lt.mp hle)).symm
  · rw [if_neg hk]
    have hsame : ((match map.get? (key entry) with
        | none => map.insert (key entry) entry
        | some existing =>
            if time entry < time existing then map.insert (key entry) entry else map).get? k) =
        map.get? k := by
      split
      · exact SortedMap.get?_insert_ne _ _ hk
      · split
        · exact SortedMap.get?_insert_ne _ _ hk
        · rfl
    rw [hsame]
    cases map.get? k <;> rfl

theorem map_time_foldl_keepEarliest (entries : List β) (map : SortedMap α β) (k : α) :
    ((entries.foldl (keepEarliest key time) map).get? k).map time =
      Option.merge min ((map.get? k).map time) (earliest key time k entries) := by
  induction entries generalizing map with
  | nil =>
      cases hget : map.get? k <;> simp [earliest, hget]
  | cons entry rest ih =>
      rw [List.foldl_cons, ih, map_time_keepEarliest, merge_min_assoc]
      rfl

theorem earliest_append (first second : List β) (k : α) :
    earliest key time k (first ++ second) =
      Option.merge min (earliest key time k first) (earliest key time k second) := by
  induction first with
  | nil =>
      rw [List.nil_append]
      exact Option.merge_none_left.symm
  | cons entry rest ih =>
      change Option.merge min _ (earliest key time k (rest ++ second)) = _
      rw [ih, ← merge_min_assoc]
      rfl

/-- In a map that stores entries under their keys, the earliest entry of a key is the one that
is stored. -/
theorem earliest_values {map : SortedMap α β} (hkeyed : Keyed key map) (k : α) :
    earliest key time k map.values = (map.get? k).map time := by
  have hnone : ∀ entries : List β, (∀ entry ∈ entries, key entry ≠ k) →
      earliest key time k entries = none := by
    intro entries hne
    induction entries with
    | nil => rfl
    | cons entry rest ih =>
        change Option.merge min (if key entry = k then some (time entry) else none)
          (earliest key time k rest) = none
        rw [if_neg (hne entry List.mem_cons_self),
          ih fun other hother => hne other (List.mem_cons_of_mem _ hother)]
        rfl
  have hsome : ∀ entries : List β, (entries.map key).Nodup → ∀ entry ∈ entries,
      key entry = k → earliest key time k entries = some (time entry) := by
    intro entries hnodup entry hmem hk
    induction entries with
    | nil => cases hmem
    | cons first rest ih =>
        obtain ⟨hfirst, hrest⟩ := List.nodup_cons.mp hnodup
        change Option.merge min (if key first = k then some (time first) else none)
          (earliest key time k rest) = some (time entry)
        obtain rfl | hmem := List.mem_cons.mp hmem
        · rw [if_pos hk, hnone rest]
          · rfl
          · intro other hother hother'
            rw [hk, ← hother'] at hfirst
            exact hfirst (List.mem_map_of_mem hother)
        · rw [if_neg, ih hrest hmem]
          · rfl
          · intro hk'
            rw [hk', ← hk] at hfirst
            exact hfirst (List.mem_map_of_mem hmem)
  cases hget : map.get? k with
  | none =>
      refine hnone _ fun entry hentry hk => ?_
      obtain ⟨k', hk'⟩ := SortedMap.mem_values.mp hentry
      rw [← hkeyed k' entry hk', hk, hget] at hk'
      cases hk'
  | some entry =>
      refine hsome _ ?_ entry (SortedMap.mem_values.mpr ⟨k, hget⟩) (hkeyed k entry hget)
      have hkeys : map.values.map key = map.keys := by
        rw [SortedMap.values, SortedMap.keys, List.map_map]
        exact List.map_congr_left fun stored hstored =>
          hkeyed stored.1 stored.2 (SortedMap.mem_entries.mp hstored)
      rw [hkeys]
      exact map.nodup_keys

theorem isSome_earliest (entries : List β) (k : α) :
    (earliest key time k entries).isSome = true ↔ ∃ entry ∈ entries, key entry = k := by
  induction entries with
  | nil => simp [earliest]
  | cons entry rest ih =>
      have hcons : earliest key time k (entry :: rest) = Option.merge min
        (if key entry = k then some (time entry) else none) (earliest key time k rest) := rfl
      by_cases hkey : key entry = k
      · cases hrest : earliest key time k rest <;> simp [hcons, hkey, hrest]
      · simp [hcons, hkey, ih]

theorem earliest_map {γ : Type} (f : γ → β) (entries : List γ) (k : α) :
    earliest key time k (entries.map f) = earliest (key ∘ f) (time ∘ f) k entries := by
  induction entries with
  | nil => rfl
  | cons entry rest ih =>
      change Option.merge min _ (earliest key time k (rest.map f)) = _
      rw [ih]
      rfl

variable {key} in
/-- The entry of a key is found among the values. -/
theorem Keyed.find?_values {map : SortedMap α β} (h : Keyed key map) (k : α) :
    map.values.find? (fun entry => key entry = k) = map.get? k := by
  cases hget : map.get? k with
  | none =>
      rw [List.find?_eq_none]
      intro entry hentry hk
      obtain ⟨k', hk'⟩ := SortedMap.mem_values.mp hentry
      rw [← h k' entry hk', of_decide_eq_true hk, hget] at hk'
      cases hk'
  | some entry =>
      cases hfind : map.values.find? (fun entry => key entry = k) with
      | none =>
          rw [List.find?_eq_none] at hfind
          exact absurd (decide_eq_true (h k entry hget))
            (hfind entry (SortedMap.mem_values.mpr ⟨k, hget⟩))
      | some found =>
          obtain ⟨k', hk'⟩ := SortedMap.mem_values.mp (List.mem_of_find?_eq_some hfind)
          have hkey : key found = k := by simpa using List.find?_some hfind
          rw [← h k' found hk', hkey, hget] at hk'
          exact hk'.symm

variable {key} in
/-- Storing the values of a map again gives the map. -/
theorem Keyed.foldl_insert_values {map : SortedMap α β} (h : Keyed key map) :
    map.values.foldl (fun map entry => map.insert (key entry) entry) SortedMap.empty = map := by
  have hentries : map.entries = map.values.map fun entry => (key entry, entry) := by
    rw [SortedMap.values, List.map_map]
    conv_lhs => rw [← List.map_id map.entries]
    refine List.map_congr_left fun entry hentry => ?_
    exact Prod.ext (h entry.1 entry.2 (SortedMap.mem_entries.mp hentry)).symm rfl
  have hofList : SortedMap.ofList map.entries = map :=
    SortedMap.eq_of_entries (SortedMap.entries_ofList map.sorted)
  conv_rhs => rw [← hofList, hentries]
  rw [SortedMap.ofList, List.foldl_map]

end Earliest

end LatestMerge
