import Mathlib.Data.List.Chain
import Mathlib.Data.List.DropRight

/-!
Sequences in which the runs of separators are collapsed: split into words that are joined again
with one separator, or trimmed at both ends with each run inside replaced. Both give the same, and
a sequence that is collapsed already stays as it is, cut or not, unless the cut leaves a separator
at its end.
-/

namespace Collapse

variable {α : Type}

/-- The stretches without a separator. -/
def words (p : α → Bool) (items : List α) : List (List α) :=
  (items.splitOnP p).filter (fun word => !word.isEmpty)

/-- Each run of separators becomes one. The flag says that the run has begun before. -/
def replaceRuns (p : α → Bool) (separator : α) : Bool → List α → List α
  | _, [] => []
  | inRun, item :: rest =>
      if p item then
        if inRun then replaceRuns p separator true rest
        else separator :: replaceRuns p separator true rest
      else item :: replaceRuns p separator false rest

def trim (p : α → Bool) (items : List α) : List α := (items.dropWhile p).rdropWhile p

variable {p : α → Bool} {separator : α}

/-! Words and runs. -/

/-- The rest of a word and the words after it. -/
def joinRest (separator : α) : List (List α) → List α
  | [] => []
  | first :: rest =>
      first ++ (rest.filter (fun word => !word.isEmpty)).flatMap (separator :: ·)

theorem rdropWhile_cons (item : α) (rest : List α) :
    (item :: rest).rdropWhile p =
      if rest.rdropWhile p = [] ∧ p item = true then [] else item :: rest.rdropWhile p := by
  unfold List.rdropWhile
  rw [List.reverse_cons, List.dropWhile_append]
  cases hrest : rest.reverse.dropWhile p with
  | nil =>
      cases hitem : p item with
      | true => simp [hitem]
      | false => simp [hitem]
  | cons first tail => simp

theorem rdropWhile_ne_nil {items : List α} (h : ∃ item ∈ items, p item = false) :
    items.rdropWhile p ≠ [] := by
  intro hnil
  obtain ⟨item, hmem, hitem⟩ := h
  have hall := List.rdropWhile_eq_nil_iff.mp hnil item hmem
  rw [hitem] at hall
  cases hall

theorem words_cons_of_pos {item : α} (h : p item = true) (rest : List α) :
    words p (item :: rest) = words p rest := by
  unfold words
  rw [List.splitOnP_cons_eq_if_modifyHead, if_pos h]
  rfl

theorem words_eq_nil {items : List α} (h : ∀ item ∈ items, p item = true) :
    words p items = [] := by
  induction items with
  | nil => rfl
  | cons item rest ih =>
      rw [words_cons_of_pos (h item List.mem_cons_self)]
      exact ih (fun item hmem => h item (List.mem_cons_of_mem _ hmem))

/-- Where a word has begun it goes on until a run of separators, after which each word follows a
separator. Where a separator stands at the front, the next word begins first. -/
theorem replaceRuns_rdropWhile (items : List α) :
    replaceRuns p separator false (items.rdropWhile p) =
        joinRest separator (items.splitOnP p) ∧
      ((∃ item ∈ items, p item = false) →
        separator :: replaceRuns p separator true (items.rdropWhile p) =
          (words p items).flatMap (separator :: ·)) := by
  induction items with
  | nil =>
      refine ⟨rfl, ?_⟩
      rintro ⟨item, hmem, -⟩
      cases hmem
  | cons item rest ih =>
      obtain ⟨ihWord, ihRun⟩ := ih
      rw [rdropWhile_cons, List.splitOnP_cons_eq_if_modifyHead]
      cases hitem : p item with
      | true =>
          have hjoin : joinRest separator ([] :: rest.splitOnP p) =
              (words p rest).flatMap (separator :: ·) := rfl
          by_cases hrest : ∃ item ∈ rest, p item = false
          · have hne := rdropWhile_ne_nil hrest
            rw [if_neg (fun hboth => hne hboth.1), if_pos rfl, hjoin, ← ihRun hrest, replaceRuns,
              if_pos hitem, if_neg Bool.false_ne_true]
            refine ⟨rfl, fun _ => ?_⟩
            rw [words_cons_of_pos hitem, ← ihRun hrest, replaceRuns, if_pos hitem, if_pos rfl]
          · have hall : ∀ item ∈ rest, p item = true := by
              simpa using hrest
            rw [if_pos ⟨List.rdropWhile_eq_nil_iff.mpr hall, rfl⟩, if_pos rfl, hjoin,
              words_eq_nil hall]
            refine ⟨rfl, ?_⟩
            rintro ⟨other, hmem, hother⟩
            obtain rfl | hmem := List.mem_cons.mp hmem
            · rw [hitem] at hother
              cases hother
            · exact absurd ⟨other, hmem, hother⟩ hrest
      | false =>
          rw [if_neg (by simp), if_neg Bool.false_ne_true, replaceRuns, hitem,
            if_neg Bool.false_ne_true, replaceRuns, hitem, if_neg Bool.false_ne_true, ihWord]
          unfold words
          rw [List.splitOnP_cons_eq_if_modifyHead, hitem, if_neg Bool.false_ne_true]
          cases hsplit : rest.splitOnP p with
          | nil => exact absurd hsplit (List.splitOnP_ne_nil p rest)
          | cons first tail =>
              refine ⟨rfl, fun _ => ?_⟩
              simp [joinRest]

theorem intercalate_cons (word : List α) (rest : List (List α)) :
    [separator].intercalate (word :: rest) = word ++ rest.flatMap (separator :: ·) := by
  induction rest generalizing word with
  | nil => simp [List.intercalate]
  | cons next rest ih =>
      rw [List.intercalate_cons_cons, ih]
      simp

/-- Trimming and replacing the runs joins the words. -/
theorem replaceRuns_trim (items : List α) :
    replaceRuns p separator false (trim p items) = [separator].intercalate (words p items) := by
  induction items with
  | nil => rfl
  | cons item rest ih =>
      cases hitem : p item with
      | true =>
          rw [words_cons_of_pos hitem, ← ih]
          unfold trim
          rw [List.dropWhile_cons_of_pos hitem]
      | false =>
          unfold trim
          rw [List.dropWhile_cons_of_neg (by simp [hitem]),
            (replaceRuns_rdropWhile (item :: rest)).1]
          unfold words
          rw [List.splitOnP_cons_eq_if_modifyHead, hitem, if_neg Bool.false_ne_true]
          cases hsplit : rest.splitOnP p with
          | nil => exact absurd hsplit (List.splitOnP_ne_nil p rest)
          | cons first tail =>
              rw [List.modifyHead_cons, joinRest, List.filter_cons_of_pos (by rfl),
                intercalate_cons]

theorem mem_words {items word : List α} {item : α} (hword : word ∈ words p items)
    (hmem : item ∈ word) : item ∈ items := by
  have hflat : item ∈ (items.splitOnP p).flatten :=
    List.mem_flatten.mpr ⟨word, (List.mem_filter.mp hword).1, hmem⟩
  have hall : ∀ items : List α, ∀ item ∈ (items.splitOnP p).flatten, item ∈ items := by
    intro items
    induction items with
    | nil =>
        intro item hitem
        exact hitem
    | cons first rest ih =>
        intro item hitem
        rw [List.splitOnP_cons_eq_if_modifyHead] at hitem
        split at hitem
        · exact List.mem_cons_of_mem _ (ih item hitem)
        · cases hsplit : rest.splitOnP p with
          | nil => exact absurd hsplit (List.splitOnP_ne_nil p rest)
          | cons word words =>
              rw [hsplit] at hitem ih
              rw [List.modifyHead_cons, List.flatten_cons, List.cons_append] at hitem
              obtain rfl | hitem := List.mem_cons.mp hitem
              · exact List.mem_cons_self
              · exact List.mem_cons_of_mem _ (ih item hitem)
  exact hall items item hflat

/-- The words depend on which of the items are separators only. -/
theorem words_congr {q : α → Bool} {items : List α} (h : ∀ item ∈ items, p item = q item) :
    words p items = words q items := by
  have hsplit : items.splitOnP p = items.splitOnP q := by
    induction items with
    | nil => rfl
    | cons item rest ih =>
        rw [List.splitOnP_cons_eq_if_modifyHead, List.splitOnP_cons_eq_if_modifyHead,
          h item List.mem_cons_self, ih (fun item hmem => h item (List.mem_cons_of_mem _ hmem))]
  unfold words
  rw [hsplit]

theorem mem_intercalate_words {items : List α} {item : α}
    (h : item ∈ [separator].intercalate (words p items)) : item = separator ∨ item ∈ items := by
  have hall : ∀ ws : List (List α), item ∈ [separator].intercalate ws →
      item = separator ∨ ∃ word ∈ ws, item ∈ word := by
    intro ws hitem
    cases ws with
    | nil => cases hitem
    | cons word rest =>
        rw [intercalate_cons, List.mem_append, List.mem_flatMap] at hitem
        obtain hmem | ⟨next, hnext, hmem⟩ := hitem
        · exact .inr ⟨word, List.mem_cons_self, hmem⟩
        · obtain rfl | hmem := List.mem_cons.mp hmem
          · exact .inl rfl
          · exact .inr ⟨next, List.mem_cons_of_mem _ hnext, hmem⟩
  obtain heq | ⟨word, hword, hmem⟩ := hall _ h
  · exact .inl heq
  · exact .inr (mem_words hword hmem)

/-! What is collapsed already. -/

/-- Separators stand alone. -/
structure Spaced (p : α → Bool) (separator : α) (items : List α) : Prop where
  only : ∀ item ∈ items, p item = true → item = separator
  alone : items.IsChain (fun item next => ¬ (p item = true ∧ p next = true))

theorem Spaced.take {items : List α} (h : Spaced p separator items) (n : Nat) :
    Spaced p separator (items.take n) where
  only item hmem := h.only item (List.mem_of_mem_take hmem)
  alone := h.alone.take n

theorem Spaced.replaceRuns_eq {items : List α} (h : Spaced p separator items) (inRun : Bool)
    (hrun : inRun = true → ∀ item, items.head? = some item → p item = false) :
    replaceRuns p separator inRun items = items := by
  induction items generalizing inRun with
  | nil => rfl
  | cons item rest ih =>
      have hrest : Spaced p separator rest :=
        ⟨fun other hmem => h.only other (List.mem_cons_of_mem _ hmem), h.alone.tail⟩
      rw [replaceRuns]
      cases hitem : p item with
      | true =>
          have hfalse : inRun = false := by
            cases inRun with
            | false => rfl
            | true =>
                have hhead := hrun rfl item rfl
                rw [hitem] at hhead
                cases hhead
          rw [if_pos rfl, hfalse, if_neg Bool.false_ne_true, ih hrest true,
            h.only item List.mem_cons_self hitem]
          intro _ next hnext
          cases rest with
          | nil => cases hnext
          | cons first tail =>
              cases hnext
              have halone := (List.isChain_cons_cons.mp h.alone).1
              simpa [hitem] using halone
      | false =>
          rw [if_neg Bool.false_ne_true, ih hrest false (fun hfalse => by cases hfalse)]

theorem spaced_replaceRuns (hseparator : p separator = true) (items : List α) (inRun : Bool) :
    Spaced p separator (replaceRuns p separator inRun items) ∧
      (inRun = true → ∀ item, (replaceRuns p separator inRun items).head? = some item →
        p item = false) := by
  induction items generalizing inRun with
  | nil =>
      refine ⟨⟨fun item hmem => absurd hmem List.not_mem_nil, List.IsChain.nil⟩, ?_⟩
      intro _ item hhead
      cases hhead
  | cons item rest ih =>
      obtain ⟨hinRun, hhead⟩ := ih true
      rw [replaceRuns]
      cases hitem : p item with
      | true =>
          rw [if_pos rfl]
          cases inRun with
          | true => exact ⟨hinRun, hhead⟩
          | false =>
              rw [if_neg Bool.false_ne_true]
              refine ⟨⟨?_, ?_⟩, fun hfalse => by cases hfalse⟩
              · intro other hmem hother
                obtain rfl | hmem := List.mem_cons.mp hmem
                · rfl
                · exact hinRun.only other hmem hother
              · refine List.isChain_cons.mpr ⟨?_, hinRun.alone⟩
                rintro next hnext ⟨-, hboth⟩
                rw [hhead rfl next hnext] at hboth
                cases hboth
      | false =>
          rw [if_neg Bool.false_ne_true]
          obtain ⟨hword, -⟩ := ih false
          refine ⟨⟨?_, ?_⟩, ?_⟩
          · intro other hmem hother
            obtain rfl | hmem := List.mem_cons.mp hmem
            · rw [hitem] at hother
              cases hother
            · exact hword.only other hmem hother
          · refine List.isChain_cons.mpr ⟨?_, hword.alone⟩
            rintro next hnext ⟨hboth, -⟩
            rw [hitem] at hboth
            cases hboth
          · rintro - first hfirst
            cases hfirst
            exact hitem

theorem length_replaceRuns_trim_le (p : α → Bool) (separator : α) (items : List α) :
    (replaceRuns p separator false (trim p items)).length ≤ items.length := by
  have hreplace : ∀ (items : List α) (inRun : Bool),
      (replaceRuns p separator inRun items).length ≤ items.length := by
    intro items
    induction items with
    | nil =>
        intro inRun
        exact le_rfl
    | cons item rest ih =>
        intro inRun
        have hrun := ih true
        have hword := ih false
        rw [replaceRuns, List.length_cons]
        split
        · split
          · omega
          · rw [List.length_cons]
            omega
        · rw [List.length_cons]
          omega
  have htrim : (trim p items).length ≤ items.length := by
    have hprefix := (List.rdropWhile_prefix p (items.dropWhile p)).length_le
    have hsuffix := (List.dropWhile_suffix p (l := items)).length_le
    unfold trim
    omega
  exact (hreplace _ false).trans htrim

theorem getLast?_replaceRuns {items : List α} {last : α} (h : items.getLast? = some last)
    (hlast : p last = false) (inRun : Bool) :
    (replaceRuns p separator inRun items).getLast? = some last := by
  induction items generalizing inRun with
  | nil => cases h
  | cons item rest ih =>
      rw [replaceRuns]
      cases rest with
      | nil =>
          have heq : item = last := Option.some.inj h
          rw [heq, if_neg (by simp [hlast])]
          rfl
      | cons next tail =>
          rw [List.getLast?_cons_cons] at h
          have hcons : ∀ (first : α) (inRun : Bool), (first :: replaceRuns p separator inRun
              (next :: tail)).getLast? = some last := by
            intro first inRun
            rw [List.getLast?_cons, ih h]
            rfl
          split
          · split
            · exact ih h true
            · exact hcons _ _
          · exact hcons _ _

/-- The separators stand alone, and none at an end. -/
structure Collapsed (p : α → Bool) (separator : α) (items : List α) : Prop
    extends Spaced p separator items where
  front : ∀ item, items.head? = some item → p item = false
  back : ∀ item, items.getLast? = some item → p item = false

theorem head?_trim {items : List α} {item : α} (h : (trim p items).head? = some item) :
    p item = false := by
  unfold trim at h
  obtain ⟨rest, hrest⟩ := List.head?_eq_some_iff.mp h
  obtain ⟨suffix, hsuffix⟩ := List.rdropWhile_prefix p (items.dropWhile p)
  rw [hrest] at hsuffix
  have hhead := List.head?_dropWhile_not p items
  rw [← hsuffix] at hhead
  simpa using hhead

theorem getLast?_trim {items : List α} {item : α} (h : (trim p items).getLast? = some item) :
    p item = false := by
  unfold trim at h
  have hne : (items.dropWhile p).rdropWhile p ≠ [] := by
    intro hnil
    rw [hnil] at h
    cases h
  have hlast := List.rdropWhile_last_not p (items.dropWhile p) hne
  rw [List.getLast?_eq_some_getLast hne] at h
  cases h
  simpa using hlast

theorem back_replaceRuns_trim {items : List α} {item : α}
    (h : (replaceRuns p separator false (trim p items)).getLast? = some item) :
    p item = false := by
  cases hlast : (trim p items).getLast? with
  | none =>
      rw [List.getLast?_eq_none_iff.mp hlast] at h
      cases h
  | some last =>
      have hend := getLast?_trim hlast
      rw [getLast?_replaceRuns hlast hend] at h
      cases h
      exact hend

theorem collapsed_replaceRuns_trim (hseparator : p separator = true) (items : List α) :
    Collapsed p separator (replaceRuns p separator false (trim p items)) where
  toSpaced := (spaced_replaceRuns hseparator _ false).1
  front item h := by
    cases htrim : trim p items with
    | nil =>
        rw [htrim] at h
        cases h
    | cons first rest =>
        have hfirst : p first = false := head?_trim (by rw [htrim]; rfl)
        rw [htrim, replaceRuns, if_neg (by simp [hfirst])] at h
        cases h
        exact hfirst
  back _ h := back_replaceRuns_trim h

theorem Spaced.replaceRuns_trim_eq_iff {items : List α} (h : Spaced p separator items)
    (hfront : ∀ item, items.head? = some item → p item = false) :
    replaceRuns p separator false (trim p items) = items ↔
      ∀ item, items.getLast? = some item → p item = false := by
  have hdrop : items.dropWhile p = items := by
    cases items with
    | nil => rfl
    | cons first rest => exact List.dropWhile_cons_of_neg (by simp [hfront first rfl])
  constructor
  · intro heq item hlast
    rw [← heq] at hlast
    exact back_replaceRuns_trim hlast
  · intro hback
    have htrim : trim p items = items := by
      unfold trim
      rw [hdrop]
      apply List.rdropWhile_eq_self_iff.mpr
      intro hne
      rw [hback _ (List.getLast?_eq_some_getLast hne)]
      exact Bool.false_ne_true
    rw [htrim]
    exact h.replaceRuns_eq false (fun hfalse => by cases hfalse)

/-- A collapsed sequence that is cut stays as it is unless the cut leaves a separator behind. -/
theorem Collapsed.replaceRuns_trim_take_iff {items : List α} (h : Collapsed p separator items)
    {n : Nat} (hn : 0 < n) :
    replaceRuns p separator false (trim p (items.take n)) = items.take n ↔
      (n < items.length → ∀ item, items[n - 1]? = some item → p item = false) := by
  rw [(h.toSpaced.take n).replaceRuns_trim_eq_iff]
  · by_cases hlength : n < items.length
    · have hlast : (items.take n).getLast? = items[n - 1]? := by
        rw [List.getLast?_take, if_neg (by omega),
          List.getElem?_eq_getElem (show n - 1 < items.length by omega)]
        rfl
      rw [hlast]
      simp [hlength]
    · rw [List.take_of_length_le (not_lt.mp hlength)]
      exact ⟨fun _ hlt => absurd hlt hlength, fun _ => h.back⟩
  · intro item hhead
    rw [List.head?_take, if_neg (by omega)] at hhead
    exact h.front item hhead

end Collapse
