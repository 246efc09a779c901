import NostrDoubleRatchet.Lib.SortedMap

/-!
An index of a map: it leads from a key that each value carries back to where the value is
stored. The rules say which updates of the two maps together keep the index exact.
-/

namespace NostrDoubleRatchet

variable {α β γ : Type} [LinearOrder α] [LinearOrder γ]

/-- The index holds the key of every stored value, and nothing else. -/
structure Indexes (key : β → γ) (index : SortedMap γ α) (m : SortedMap α β) : Prop where
  found : ∀ a b, m.get? a = some b → index.get? (key b) = some a
  stored : ∀ c a, index.get? c = some a → ∃ b, m.get? a = some b ∧ key b = c

namespace Indexes

variable {key : β → γ} {index : SortedMap γ α} {m : SortedMap α β}

theorem empty : Indexes key (SortedMap.empty : SortedMap γ α) SortedMap.empty :=
  ⟨(fun _ _ h => by cases h), (fun _ _ h => by cases h)⟩

theorem get?_eq_some_iff (h : Indexes key index m) {c : γ} {a : α} :
    index.get? c = some a ↔ ∃ b, m.get? a = some b ∧ key b = c := by
  constructor
  · exact h.stored c a
  · rintro ⟨b, hb, rfl⟩
    exact h.found a b hb

/-- A map has one index. -/
theorem unique {index' : SortedMap γ α} (h : Indexes key index m) (h' : Indexes key index' m) :
    index = index' := by
  apply SortedMap.ext_get?
  intro c
  apply Option.ext
  intro a
  rw [h.get?_eq_some_iff, h'.get?_eq_some_iff]

/-- A value is replaced by one with the same key. -/
theorem replace (h : Indexes key index m) {a : α} {old b : β} (hold : m.get? a = some old)
    (hkey : key b = key old) : Indexes key index (m.insert a b) := by
  refine ⟨?_, ?_⟩
  · intro a' b' hb'
    rw [SortedMap.get?_insert] at hb'
    split at hb'
    · cases hb'
      subst a'
      rw [hkey]
      exact h.found a old hold
    · exact h.found a' b' hb'
  · intro c a' hc
    obtain ⟨b', hb', rfl⟩ := h.stored c a' hc
    rw [SortedMap.get?_insert]
    split
    · subst a'
      rw [hold] at hb'
      cases hb'
      exact ⟨b, rfl, hkey⟩
    · exact ⟨b', hb', rfl⟩

/-- A value is taken out together with its key. -/
theorem erase (h : Indexes key index m) {a : α} {old : β} (hold : m.get? a = some old) :
    Indexes key (index.erase (key old)) (m.erase a) := by
  refine ⟨?_, ?_⟩
  · intro a' b' hb'
    rw [SortedMap.get?_erase] at hb'
    split at hb'
    · cases hb'
    · rename_i hne
      have hfound := h.found a' b' hb'
      rw [SortedMap.get?_erase, if_neg]
      · exact hfound
      · intro hsame
        rw [← hsame, h.found a old hold] at hfound
        exact hne (Option.some.inj hfound)
  · intro c a' hc
    rw [SortedMap.get?_erase] at hc
    split at hc
    · cases hc
    · rename_i hne
      obtain ⟨b', hb', rfl⟩ := h.stored c a' hc
      refine ⟨b', ?_, rfl⟩
      rw [SortedMap.get?_erase, if_neg]
      · exact hb'
      · rintro rfl
        rw [hold] at hb'
        cases hb'
        exact hne rfl

/-- A value is stored where there was none, under a key that was free. -/
theorem insert (h : Indexes key index m) {a : α} {b : β} (hnone : m.get? a = none)
    (hfree : index.get? (key b) = none) :
    Indexes key (index.insert (key b) a) (m.insert a b) := by
  refine ⟨?_, ?_⟩
  · intro a' b' hb'
    rw [SortedMap.get?_insert] at hb'
    split at hb'
    · cases hb'
      subst a'
      exact SortedMap.get?_insert_self _ _ _
    · have hfound := h.found a' b' hb'
      rw [SortedMap.get?_insert, if_neg]
      · exact hfound
      · intro hsame
        rw [← hsame, hfree] at hfound
        cases hfound
  · intro c a' hc
    rw [SortedMap.get?_insert] at hc
    split at hc
    · cases hc
      subst c
      exact ⟨b, SortedMap.get?_insert_self _ _ _, rfl⟩
    · obtain ⟨b', hb', rfl⟩ := h.stored c a' hc
      refine ⟨b', ?_, rfl⟩
      rw [SortedMap.get?_insert, if_neg]
      · exact hb'
      · rintro rfl
        rw [hnone] at hb'
        cases hb'

/-- A value gets a key that was free. -/
theorem rekey (h : Indexes key index m) {a : α} {old b : β} (hold : m.get? a = some old)
    (hfree : index.get? (key b) = none) :
    Indexes key ((index.erase (key old)).insert (key b) a) (m.insert a b) := by
  have hinserted : Indexes key ((index.erase (key old)).insert (key b) a)
      ((m.erase a).insert a b) := by
    refine (h.erase hold).insert (SortedMap.get?_erase_self _ _) ?_
    rw [SortedMap.get?_erase]
    split
    · rfl
    · exact hfree
  have hmap : (m.erase a).insert a b = m.insert a b := by
    apply SortedMap.ext_get?
    intro a'
    rw [SortedMap.get?_insert, SortedMap.get?_insert, SortedMap.get?_erase]
    split <;> rfl
  rw [hmap] at hinserted
  exact hinserted

/-- A value is stored at `a` under a key that was free or already led there; `q` is the key
`a` had before. -/
theorem assign (h : Indexes key index m) {a : α} {b : β} {q : γ}
    (hfree : ∀ a', index.get? (key b) = some a' → a' = a)
    (hsome : ∀ old, m.get? a = some old → key old = q) (hnone : m.get? a = none → q = key b) :
    Indexes key ((if q ≠ key b then index.erase q else index).insert (key b) a)
      (m.insert a b) := by
  cases hold : m.get? a with
  | none =>
      rw [if_neg (not_not.mpr (hnone hold))]
      refine h.insert hold ?_
      by_contra hne
      obtain ⟨a', ha'⟩ := Option.ne_none_iff_exists'.mp hne
      obtain ⟨b', hb', -⟩ := h.stored _ _ ha'
      rw [hfree a' ha', hold] at hb'
      cases hb'
  | some old =>
      obtain rfl := hsome old hold
      by_cases hkey : key old = key b
      · rw [if_neg (not_not.mpr hkey)]
        have hindex : index.insert (key b) a = index := by
          apply SortedMap.ext_get?
          intro c
          rw [SortedMap.get?_insert]
          split
          · subst c
            rw [← hkey]
            exact (h.found a old hold).symm
          · rfl
        rw [hindex]
        exact h.replace hold hkey.symm
      · rw [if_pos hkey]
        refine h.rekey hold ?_
        by_contra hne
        obtain ⟨a', ha'⟩ := Option.ne_none_iff_exists'.mp hne
        obtain ⟨b', hb', hb'key⟩ := h.stored _ _ ha'
        rw [hfree a' ha', hold] at hb'
        cases hb'
        exact hkey hb'key

/-- A value is stored at `a` under a key that led to another place, whose value goes. -/
theorem takeOver (h : Indexes key index m) {a taken : α} {b gone : β} {q : γ}
    (htaken : m.get? taken = some gone) (hkey : key gone = key b)
    (hsome : ∀ old, (m.erase taken).get? a = some old → key old = q)
    (hnone : (m.erase taken).get? a = none → q = key b) :
    Indexes key ((if q ≠ key b then index.erase q else index).insert (key b) a)
      ((m.erase taken).insert a b) := by
  have hassigned := (h.erase htaken).assign (b := b) (a := a) (q := q) (fun a' ha' => by
    rw [hkey, SortedMap.get?_erase_self] at ha'
    cases ha') hsome hnone
  have hindex : (if q ≠ key b then (index.erase (key gone)).erase q
        else index.erase (key gone)).insert (key b) a =
      (if q ≠ key b then index.erase q else index).insert (key b) a := by
    apply SortedMap.ext_get?
    intro c
    rw [SortedMap.get?_insert, SortedMap.get?_insert]
    split
    · rfl
    · rename_i hne
      have hgone : key gone ≠ c := fun hc => hne (hkey.symm.trans hc)
      split
      · rw [SortedMap.get?_erase, SortedMap.get?_erase, SortedMap.get?_erase, if_neg hgone]
      · rw [SortedMap.get?_erase, if_neg hgone]
  rw [hindex] at hassigned
  exact hassigned

end Indexes

end NostrDoubleRatchet
