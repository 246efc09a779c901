import NostrDoubleRatchet.Lib.SortedMap

/-!
Finite sets listed in strictly increasing order, as sorted maps without values. A set
is determined by its members, and its list is the one sorted list of them.
-/

/-- A finite set whose members are listed in strictly increasing order. -/
structure SortedSet (α : Type) [LinearOrder α] where
  map : SortedMap α Unit
  deriving DecidableEq

namespace SortedSet

variable {α : Type} [LinearOrder α]

def empty : SortedSet α := ⟨SortedMap.empty⟩

instance : Inhabited (SortedSet α) := ⟨empty⟩

def toList (s : SortedSet α) : List α := s.map.keys

def length (s : SortedSet α) : Nat := s.map.length

def contains (s : SortedSet α) (a : α) : Bool := s.map.contains a

instance : Membership α (SortedSet α) := ⟨fun s a => s.contains a = true⟩

instance (a : α) (s : SortedSet α) : Decidable (a ∈ s) :=
  inferInstanceAs (Decidable (s.contains a = true))

def isEmpty (s : SortedSet α) : Bool := s.toList.isEmpty

def insert (s : SortedSet α) (a : α) : SortedSet α := ⟨s.map.insert a ()⟩

def erase (s : SortedSet α) (a : α) : SortedSet α := ⟨s.map.erase a⟩

/-- Insert the items one by one. -/
def extend (s : SortedSet α) (items : List α) : SortedSet α := items.foldl insert s

def ofList (items : List α) : SortedSet α := empty.extend items

def isSubset (s t : SortedSet α) : Bool := s.toList.all t.contains

theorem mem_def {a : α} {s : SortedSet α} : a ∈ s ↔ s.map.get? a = some () := by
  change (s.map.get? a).isSome = true ↔ _
  cases s.map.get? a with
  | none => simp
  | some value => simp

@[simp] theorem contains_iff {a : α} {s : SortedSet α} : s.contains a = true ↔ a ∈ s := Iff.rfl

@[simp] theorem mem_toList {a : α} {s : SortedSet α} : a ∈ s.toList ↔ a ∈ s := by
  rw [toList, SortedMap.mem_keys, mem_def]
  constructor
  · rintro ⟨value, hvalue⟩
    exact hvalue
  · intro hget
    exact ⟨(), hget⟩

theorem ext_mem {s t : SortedSet α} (h : ∀ a, a ∈ s ↔ a ∈ t) : s = t := by
  have hmap : s.map = t.map := by
    apply SortedMap.ext_get?
    intro a
    have ha := h a
    rw [mem_def, mem_def] at ha
    cases hs : s.map.get? a with
    | none =>
        cases ht : t.map.get? a with
        | none => rfl
        | some value => simp [hs, ht] at ha
    | some value =>
        cases ht : t.map.get? a with
        | none => simp [hs, ht] at ha
        | some value' => rfl
  cases s
  cases t
  cases hmap
  rfl

@[simp] theorem not_mem_empty (a : α) : a ∉ (empty : SortedSet α) := by
  rw [mem_def]
  simp [empty]

@[simp] theorem mem_insert {a b : α} {s : SortedSet α} : a ∈ s.insert b ↔ a = b ∨ a ∈ s := by
  rw [mem_def, mem_def, insert, SortedMap.get?_insert]
  by_cases hba : b = a
  · simp [hba]
  · simp [hba, Ne.symm hba]

@[simp] theorem mem_erase {a b : α} {s : SortedSet α} : a ∈ s.erase b ↔ a ≠ b ∧ a ∈ s := by
  rw [mem_def, mem_def, erase, SortedMap.get?_erase]
  by_cases hba : b = a
  · simp [hba]
  · simp [hba, Ne.symm hba]

@[simp] theorem mem_extend {a : α} {s : SortedSet α} {items : List α} :
    a ∈ s.extend items ↔ a ∈ items ∨ a ∈ s := by
  unfold extend
  induction items generalizing s with
  | nil => simp
  | cons b rest ih =>
      rw [List.foldl_cons, ih, mem_insert, List.mem_cons]
      tauto

@[simp] theorem mem_ofList {a : α} {items : List α} : a ∈ ofList items ↔ a ∈ items := by
  rw [ofList, mem_extend]
  simp

theorem mem_foldl_erase {a : α} {s : SortedSet α} {items : List α} :
    a ∈ items.foldl erase s ↔ a ∉ items ∧ a ∈ s := by
  induction items generalizing s with
  | nil => simp
  | cons b rest ih =>
      rw [List.foldl_cons, ih, mem_erase, List.mem_cons]
      tauto

/-- Collecting the members again gives the set. -/
@[simp] theorem ofList_toList (s : SortedSet α) : ofList s.toList = s :=
  ext_mem fun a => by rw [mem_ofList, mem_toList]

theorem sorted_toList (s : SortedSet α) : s.toList.Pairwise (· < ·) := by
  rw [toList, SortedMap.keys, List.pairwise_map]
  exact s.map.sorted

theorem nodup_toList (s : SortedSet α) : s.toList.Nodup := s.map.nodup_keys

@[simp] theorem length_toList (s : SortedSet α) : s.toList.length = s.length :=
  s.map.length_keys

theorem isEmpty_iff {s : SortedSet α} : s.isEmpty = true ↔ ∀ a, a ∉ s := by
  rw [isEmpty, List.isEmpty_iff, List.eq_nil_iff_forall_not_mem]
  simp only [mem_toList]

theorem isEmpty_eq_false {s : SortedSet α} : s.isEmpty = false ↔ ∃ a, a ∈ s := by
  rw [← Bool.not_eq_true, isEmpty_iff]
  push Not
  rfl

theorem isSubset_iff {s t : SortedSet α} : s.isSubset t = true ↔ ∀ a ∈ s, a ∈ t := by
  rw [isSubset, List.all_eq_true]
  simp only [mem_toList, contains_iff]

/-- The sorted list of a set is determined by its members. -/
theorem toList_eq_of_sorted {s : SortedSet α} {items : List α} (hsorted : items.Pairwise (· < ·))
    (hmem : ∀ a, a ∈ items ↔ a ∈ s) : s.toList = items := by
  refine List.Perm.eq_of_pairwise' (r := (· < ·)) s.sorted_toList hsorted ?_
  rw [List.perm_ext_iff_of_nodup s.nodup_toList (hsorted.imp (fun h => ne_of_lt h))]
  intro a
  rw [mem_toList, hmem]

end SortedSet
