import Mathlib.Data.List.MinMax
import Mathlib.Data.Prod.Lex

/-!
Maps that keep, for each key, the greatest or the last of the items seen so far. Of such a map
only how it answers a lookup matters: a lookup is the greatest item of its key, whatever the order
in which the items came in, or the last one. At the end, the first of the greatest items of a list.
-/

namespace Selection

variable {α κ ρ M : Type} [LinearOrder ρ] {key : α → κ} {rank : α → ρ}

/-- Of two items the later one is kept if it is greater. -/
def greater (rank : α → ρ) (current : Option α) (incoming : α) : Option α :=
  List.argAux (fun b c => rank c < rank b) current incoming

theorem greater_some (current incoming : α) : greater rank (some current) incoming =
    if rank current < rank incoming then some incoming else some current := rfl

theorem greater_eq {current : Option α} {incoming a : α}
    (h : greater rank current incoming = some a) : a = incoming ∨ current = some a := by
  cases current with
  | none =>
      cases h
      exact .inl rfl
  | some current =>
      rw [greater_some] at h
      split at h
      · cases h
        exact .inl rfl
      · exact .inr h

variable [DecidableEq κ]

variable (key rank) in
/-- The greatest item of a key. -/
def selected (items : List α) (k : κ) : Option α :=
  (items.filter (fun a => key a = k)).argmax rank

theorem selected_cases {items : List α} {k : κ} {a : α} (h : selected key rank items k = some a) :
    a ∈ items ∧ key a = k ∧ ∀ b ∈ items, key b = k → rank b ≤ rank a := by
  have hmem := List.mem_filter.mp (List.argmax_mem h)
  refine ⟨hmem.1, of_decide_eq_true hmem.2, ?_⟩
  intro b hb hkey
  exact List.le_of_mem_argmax (List.mem_filter.mpr ⟨hb, decide_eq_true hkey⟩) h

theorem isSome_selected {items : List α} {k : κ} :
    (selected key rank items k).isSome = true ↔ ∃ a ∈ items, key a = k := by
  rw [Option.isSome_iff_ne_none, selected, ne_eq, List.argmax_eq_none, List.filter_eq_nil_iff]
  simp

/-- The greatest item of a key, where no two items have one rank. -/
theorem selected_eq_some {items : List α}
    (hrank : ∀ a ∈ items, ∀ b ∈ items, rank a = rank b → a = b) {k : κ} {a : α}
    (hmem : a ∈ items) (hkey : key a = k) (hle : ∀ b ∈ items, key b = k → rank b ≤ rank a) :
    selected key rank items k = some a := by
  have hsome : (selected key rank items k).isSome = true := isSome_selected.mpr ⟨a, hmem, hkey⟩
  obtain ⟨b, hb⟩ := Option.isSome_iff_exists.mp hsome
  obtain ⟨hbmem, hbkey, hble⟩ := selected_cases hb
  rw [hb, hrank b hbmem a hmem (le_antisymm (hle b hbmem hbkey) (hble a hmem hkey))]

/-- The order of the items does not matter, nor how often they come. -/
theorem selected_congr {first second : List α} (hmem : ∀ a, a ∈ first ↔ a ∈ second)
    (hrank : ∀ a ∈ first, ∀ b ∈ first, rank a = rank b → a = b) (k : κ) :
    selected key rank first k = selected key rank second k := by
  cases h : selected key rank second k with
  | none =>
      rw [← Option.not_isSome_iff_eq_none, isSome_selected] at h ⊢
      rintro ⟨a, ha, hkey⟩
      exact h ⟨a, (hmem a).mp ha, hkey⟩
  | some a =>
      obtain ⟨ha, hkey, hle⟩ := selected_cases h
      exact selected_eq_some hrank ((hmem a).mpr ha) hkey
        (fun b hb => hle b ((hmem b).mp hb))

/-- A fold whose steps keep the greater item answers with the greatest item. The items, and so
what the map answers, may be known to satisfy `J`. -/
theorem get_foldl_eq_selected (get : M → κ → Option α) (step : M → α → M) (J : α → Prop)
    {start : M} (hstart : ∀ k, get start k = none)
    (hstep : ∀ m a, J a → (∀ k b, get m k = some b → J b) → ∀ k,
      get (step m a) k = if key a = k then greater rank (get m k) a else get m k)
    {items : List α} (hitems : ∀ a ∈ items, J a) (k : κ) :
    get (items.foldl step start) k = selected key rank items k := by
  have hfold : ∀ (items : List α) (m : M), (∀ a ∈ items, J a) → (∀ k b, get m k = some b → J b) →
      get (items.foldl step m) k =
        (items.filter (fun a => key a = k)).foldl (greater rank) (get m k) := by
    intro items
    induction items with
    | nil => exact fun _ _ _ => rfl
    | cons a rest ih =>
        intro m hall hm
        have ha := hall a List.mem_cons_self
        have hnext : ∀ k b, get (step m a) k = some b → J b := by
          intro k b hb
          rw [hstep m a ha hm] at hb
          split at hb
          · obtain rfl | hold := greater_eq hb
            · exact ha
            · exact hm k b hold
          · exact hm k b hb
        rw [List.foldl_cons, ih _ (fun b hb => hall b (List.mem_cons_of_mem _ hb)) hnext,
          hstep m a ha hm]
        by_cases hkey : key a = k
        · rw [if_pos hkey, List.filter_cons_of_pos (by simpa using hkey), List.foldl_cons]
        · rw [if_neg hkey, List.filter_cons_of_neg (by simpa using hkey)]
  have hempty : ∀ k b, get start k = some b → J b := by
    intro k b hb
    rw [hstart] at hb
    cases hb
  rw [hfold items start hitems hempty, hstart]
  rfl

omit [LinearOrder ρ] in
/-- A fold whose steps overwrite answers with the last item. -/
theorem get_foldl_eq_getLast? (get : M → κ → Option α) (step : M → α → M) {start : M}
    (hstart : ∀ k, get start k = none)
    (hstep : ∀ m a k, get (step m a) k = if key a = k then some a else get m k)
    (items : List α) (k : κ) :
    get (items.foldl step start) k = (items.filter (fun a => key a = k)).getLast? := by
  induction items using List.reverseRecOn with
  | nil => exact hstart k
  | append_singleton items a ih =>
      rw [List.foldl_append, List.foldl_cons, List.foldl_nil, hstep, List.filter_append]
      by_cases hkey : key a = k
      · rw [if_pos hkey, List.filter_cons_of_pos (by simpa using hkey), List.filter_nil,
          List.getLast?_concat]
      · rw [if_neg hkey, List.filter_cons_of_neg (by simpa using hkey), List.filter_nil,
          List.append_nil, ih]

/-- The last item that passes a test has none after it that does. -/
theorem getLast?_filter_eq_some {items : List α} {p : α → Bool} {a : α} :
    (items.filter p).getLast? = some a ↔
      p a = true ∧ ∃ front back, items = front ++ a :: back ∧ ∀ later ∈ back, p later = false := by
  rw [← List.head?_reverse, ← List.filter_reverse, List.head?_filter,
    List.find?_eq_some_iff_append]
  simp only [Bool.not_eq_true']
  refine and_congr_right fun _ => ?_
  constructor
  · rintro ⟨back, front, heq, hall⟩
    refine ⟨front.reverse, back.reverse, ?_, fun later hlater => hall later (by simpa using hlater)⟩
    have hreverse := congrArg List.reverse heq
    simpa using hreverse
  · rintro ⟨front, back, rfl, hall⟩
    exact ⟨back.reverse, front.reverse, by simp, fun later hlater => hall later (by simpa using hlater)⟩

/-! The first of the greatest items of a list. A stable sort puts it first. -/

section FirstGreatest

variable {β : Type}

omit [DecidableEq κ]

theorem argmax_map (f : β → α) (rank : α → ρ) (items : List β) :
    (items.map f).argmax rank = (items.argmax (rank ∘ f)).map f := by
  induction items using List.reverseRecOn with
  | nil => rfl
  | append_singleton items a ih =>
      rw [List.map_append, List.map_singleton, List.argmax_concat, List.argmax_concat, ih]
      cases items.argmax (rank ∘ f) with
      | none => rfl
      | some best =>
          simp only [Option.map_some, Function.comp_apply]
          split <;> rfl

theorem head?_filter_of_argmax {items : List α} {a : α} (h : items.argmax rank = some a) :
    (items.filter (fun b => decide (rank b = rank a))).head? = some a := by
  induction items using List.reverseRecOn with
  | nil => cases h
  | append_singleton items b ih =>
      rw [List.argmax_concat] at h
      rw [List.filter_append, List.head?_append]
      cases hbest : items.argmax rank with
      | none =>
          rw [hbest] at h
          cases h
          rw [List.argmax_eq_none.mp hbest]
          simp
      | some best =>
          rw [hbest] at h
          dsimp only at h
          by_cases hless : rank best < rank b
          · rw [if_pos hless] at h
            cases h
            have hnone : items.filter (fun c => decide (rank c = rank a)) = [] := by
              rw [List.filter_eq_nil_iff]
              intro c hc hsame
              have hle := List.le_of_mem_argmax hc hbest
              rw [of_decide_eq_true hsame] at hle
              exact absurd hless (not_lt_of_ge hle)
            rw [hnone]
            simp
          · rw [if_neg hless] at h
            cases h
            rw [ih hbest]
            rfl

/-- Only the comparisons between items of the list matter. -/
theorem argmax_congr {σ : Type} [LinearOrder σ] {rank' : α → σ} {items : List α}
    (h : ∀ a ∈ items, ∀ b ∈ items, rank a < rank b ↔ rank' a < rank' b) :
    items.argmax rank = items.argmax rank' := by
  induction items using List.reverseRecOn with
  | nil => rfl
  | append_singleton items last ih =>
      have hfront : items.argmax rank = items.argmax rank' :=
        ih (fun a ha b hb => h a (List.mem_append_left _ ha) b (List.mem_append_left _ hb))
      rw [List.argmax_concat, List.argmax_concat, ← hfront]
      cases hbest : items.argmax rank with
      | none => rfl
      | some best =>
          have hless := h best (List.mem_append_left _ (List.argmax_mem hbest)) last
            (List.mem_append_right _ (List.mem_singleton.mpr rfl))
          dsimp only
          by_cases hlast : rank best < rank last
          · rw [if_pos hlast, if_pos (hless.mp hlast)]
          · rw [if_neg hlast, if_neg (fun hother => hlast (hless.mpr hother))]

/-- A stable sort by descending rank puts the first of the greatest items first. -/
theorem head?_mergeSort (items : List α) (rank : α → ρ) :
    (items.mergeSort (fun a b => decide (rank b ≤ rank a))).head? = items.argmax rank := by
  have hperm := List.mergeSort_perm items (fun a b => decide (rank b ≤ rank a))
  have htrans : ∀ a b c : α, decide (rank b ≤ rank a) = true → decide (rank c ≤ rank b) = true →
      decide (rank c ≤ rank a) = true := by
    intro a b c hab hbc
    exact decide_eq_true (le_trans (of_decide_eq_true hbc) (of_decide_eq_true hab))
  have htotal : ∀ a b : α,
      (decide (rank b ≤ rank a) || decide (rank a ≤ rank b)) = true := by
    intro a b
    simpa using le_total (rank b) (rank a)
  have hsorted := List.pairwise_mergeSort htrans htotal items
  cases hbest : items.argmax rank with
  | none =>
      rw [List.argmax_eq_none.mp hbest]
      simp
  | some best =>
      -- The greatest items stand in the sorted list as they stood in the given one.
      have hkept : (items.filter (fun b => decide (rank b = rank best))).Sublist
          (items.mergeSort (fun a b => decide (rank b ≤ rank a))) := by
        apply List.sublist_mergeSort htrans htotal _ List.filter_sublist
        apply List.pairwise_of_forall_mem_list
        intro a ha b hb
        have ha' := of_decide_eq_true (List.mem_filter.mp ha).2
        have hb' := of_decide_eq_true (List.mem_filter.mp hb).2
        exact decide_eq_true (le_of_eq (hb'.trans ha'.symm))
      have hsame : (items.filter (fun b => decide (rank b = rank best))) =
          (items.mergeSort (fun a b => decide (rank b ≤ rank a))).filter
            (fun b => decide (rank b = rank best)) := by
        have hfilter := hkept.filter (fun b => decide (rank b = rank best))
        rw [List.filter_filter] at hfilter
        simp only [Bool.and_self] at hfilter
        exact hfilter.eq_of_length (hperm.filter _).length_eq.symm
      have hhead := head?_filter_of_argmax hbest
      rw [hsame] at hhead
      cases hlist : items.mergeSort (fun a b => decide (rank b ≤ rank a)) with
      | nil =>
          rw [hlist] at hhead
          cases hhead
      | cons first rest =>
          rw [hlist] at hhead hsorted hperm
          have hfirst : rank first = rank best := by
            apply le_antisymm
            · exact List.le_of_mem_argmax (hperm.mem_iff.mp List.mem_cons_self) hbest
            · rcases List.mem_cons.mp (hperm.mem_iff.mpr (List.argmax_mem hbest)) with heq | hin
              · exact le_of_eq (congrArg rank heq)
              · exact of_decide_eq_true ((List.pairwise_cons.mp hsorted).1 best hin)
          rw [List.filter_cons_of_pos (by simpa using hfirst)] at hhead
          exact hhead

/-- Where every item stands at a position of its own, the first of the greatest items is the
greatest by rank and then by the earlier position. -/
theorem argmax_eq_some_iff {items : List α} {position : α → Nat}
    (hitems : items.Pairwise (fun a b => position a < position b)) {a : α} :
    items.argmax rank = some a ↔ a ∈ items ∧ ∀ b ∈ items,
      toLex (rank b, OrderDual.toDual (position b)) ≤
        toLex (rank a, OrderDual.toDual (position a)) := by
  classical
  have hindex : ∀ b ∈ items, ∀ c ∈ items, items.idxOf b < items.idxOf c →
      position b < position c := by
    intro b hb c hc hless
    have hpositions := List.pairwise_iff_getElem.mp hitems (items.idxOf b) (items.idxOf c)
      (List.idxOf_lt_length_iff.mpr hb) (List.idxOf_lt_length_iff.mpr hc) hless
    rw [List.getElem_idxOf, List.getElem_idxOf] at hpositions
    exact hpositions
  have hposition : ∀ b ∈ items, ∀ c ∈ items,
      items.idxOf b ≤ items.idxOf c ↔ position b ≤ position c := by
    intro b hb c hc
    constructor
    · intro hle
      rcases Nat.lt_or_eq_of_le hle with hless | heq
      · exact Nat.le_of_lt (hindex b hb c hc hless)
      · rw [List.idxOf_inj hb |>.mp heq]
    · intro hle
      by_contra hless
      exact absurd (hindex c hc b hb (Nat.lt_of_not_le hless)) (Nat.not_lt_of_le hle)
  rw [List.argmax_eq_some_iff]
  refine and_congr_right fun hmem => ?_
  constructor
  · rintro ⟨hle, hfirst⟩ b hb
    rw [Prod.Lex.toLex_le_toLex]
    rcases lt_or_eq_of_le (hle b hb) with hless | heq
    · exact Or.inl hless
    · exact Or.inr ⟨heq, (hposition a hmem b hb).mp (hfirst b hb (ge_of_eq heq))⟩
  · intro hall
    constructor
    · intro b hb
      rcases Prod.Lex.toLex_le_toLex.mp (hall b hb) with hless | ⟨heq, -⟩
      · exact le_of_lt hless
      · exact le_of_eq heq
    · intro b hb hge
      apply (hposition a hmem b hb).mpr
      rcases Prod.Lex.toLex_le_toLex.mp (hall b hb) with hless | ⟨-, hlater⟩
      · exact absurd hless (not_lt_of_ge hge)
      · exact hlater

end FirstGreatest

section Admission

variable {α ρ : Type} [LinearOrder ρ] {admits : α → Bool} {rank : α → ρ}

/-- The first item must be admitted; after it a greater one is taken as it comes. -/
def adopt (admits : α → Bool) (rank : α → ρ) (current : Option α) (incoming : α) : Option α :=
  match current with
  | none => if admits incoming then some incoming else none
  | some current => greater rank (some current) incoming

theorem adopt_eq {current : Option α} {incoming a : α}
    (h : adopt admits rank current incoming = some a) : a = incoming ∨ current = some a := by
  cases current with
  | none =>
      dsimp only [adopt] at h
      split at h
      · cases h
        exact Or.inl rfl
      · cases h
  | some current => exact greater_eq h

theorem foldl_adopt_some (items : List α) (current : α) :
    items.foldl (adopt admits rank) (some current) = (current :: items).argmax rank := by
  have hfold : ∀ (items : List α) (current : α), items.foldl (adopt admits rank) (some current) =
      items.foldl (greater rank) (some current) := by
    intro items
    induction items with
    | nil => exact fun _ => rfl
    | cons item rest ih =>
        intro current
        rw [List.foldl_cons, List.foldl_cons]
        change rest.foldl (adopt admits rank) (greater rank (some current) item) = _
        rw [greater_some]
        split
        · exact ih item
        · exact ih current
  rw [hfold]
  rfl

/-- The greatest item is kept at the end if and only if it comes at a moment when it is admitted
or something has been admitted before. -/
theorem foldl_adopt_eq_some_iff {items : List α} {top : α}
    (htop : ∀ a ∈ items, rank a ≤ rank top ∧ (rank a = rank top → a = top)) :
    items.foldl (adopt admits rank) none = some top ↔
      ∃ before after, items = before ++ top :: after ∧
        (admits top = true ∨ ∃ a ∈ before, admits a = true) := by
  induction items with
  | nil =>
      constructor
      · intro h
        cases h
      · rintro ⟨before, after, h, -⟩
        exact absurd h.symm (List.append_ne_nil_of_right_ne_nil before (List.cons_ne_nil top after))
  | cons item rest ih =>
      have hrest := ih (fun a ha => htop a (List.mem_cons_of_mem item ha))
      rw [List.foldl_cons]
      by_cases hadmits : admits item = true
      · have hfirst : adopt admits rank none item = some item := if_pos hadmits
        rw [hfirst, foldl_adopt_some]
        constructor
        · intro hmax
          obtain ⟨before, after, hsplit⟩ := List.append_of_mem (List.argmax_mem hmax)
          refine ⟨before, after, hsplit, ?_⟩
          cases before with
          | nil =>
              obtain ⟨rfl, -⟩ := List.cons.inj hsplit
              exact Or.inl hadmits
          | cons first before =>
              obtain ⟨rfl, -⟩ := List.cons.inj hsplit
              exact Or.inr ⟨item, List.mem_cons_self, hadmits⟩
        · rintro ⟨before, after, hsplit, -⟩
          have hmem : top ∈ item :: rest := by
            rw [hsplit]
            exact List.mem_append_right before List.mem_cons_self
          cases hmax : (item :: rest).argmax rank with
          | none => exact absurd (List.argmax_eq_none.mp hmax) (List.cons_ne_nil item rest)
          | some best =>
              have hbest := htop best (List.argmax_mem hmax)
              rw [hbest.2 (le_antisymm hbest.1 (List.le_of_mem_argmax hmem hmax))]
      · have hfirst : adopt admits rank none item = none := if_neg hadmits
        rw [hfirst, hrest]
        constructor
        · rintro ⟨before, after, rfl, htaken⟩
          refine ⟨item :: before, after, rfl, htaken.imp_right ?_⟩
          rintro ⟨a, ha, hadmitted⟩
          exact ⟨a, List.mem_cons_of_mem item ha, hadmitted⟩
        · rintro ⟨before, after, hsplit, htaken⟩
          cases before with
          | nil =>
              obtain ⟨rfl, -⟩ := List.cons.inj hsplit
              rcases htaken with htaken | ⟨a, ha, -⟩
              · exact absurd htaken hadmits
              · cases ha
          | cons first before =>
              obtain ⟨rfl, hbefore⟩ := List.cons.inj hsplit
              refine ⟨before, after, hbefore, htaken.imp_right ?_⟩
              rintro ⟨a, ha, hadmitted⟩
              rcases List.mem_cons.mp ha with rfl | ha
              · exact absurd hadmitted hadmits
              · exact ⟨a, ha, hadmitted⟩

end Admission

end Selection
