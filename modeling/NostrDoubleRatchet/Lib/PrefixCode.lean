import Mathlib.Data.List.Basic

/-!
Prefix-free encodings. Two encodings followed by anything agree only when the
encoded values and the remainders agree, so a record written field by field can
be read back field by field.
-/

/-- No encoding of a valid value is a proper prefix of another one's. -/
def PrefixFree {α β : Type} (valid : α → Prop) (encode : α → List β) : Prop :=
  ∀ a b u v, valid a → valid b → encode a ++ u = encode b ++ v → a = b ∧ u = v

namespace PrefixFree

variable {α β γ : Type}

theorem injective {valid : α → Prop} {encode : α → List β} (h : PrefixFree valid encode)
    {a b : α} (ha : valid a) (hb : valid b) (heq : encode a = encode b) : a = b :=
  (h a b [] [] ha hb (by rw [heq])).1

/-- Encodings of one length are prefix-free as soon as they are injective. -/
theorem of_length {valid : α → Prop} {encode : α → List β} {n : Nat}
    (hlength : ∀ a, (encode a).length = n)
    (hinj : ∀ a b, valid a → valid b → encode a = encode b → a = b) :
    PrefixFree valid encode := by
  intro a b u v ha hb heq
  obtain ⟨hcode, hrest⟩ := List.append_inj heq (by rw [hlength, hlength])
  exact ⟨hinj a b ha hb hcode, hrest⟩

/-- One value after another. -/
theorem prod {validA : α → Prop} {validC : γ → Prop} {encodeA : α → List β}
    {encodeC : γ → List β} (hA : PrefixFree validA encodeA) (hC : PrefixFree validC encodeC) :
    PrefixFree (fun p : α × γ => validA p.1 ∧ validC p.2)
      (fun p => encodeA p.1 ++ encodeC p.2) := by
  rintro ⟨a, c⟩ ⟨b, d⟩ u v ⟨ha, hc⟩ ⟨hb, hd⟩ heq
  rw [List.append_assoc, List.append_assoc] at heq
  obtain ⟨rfl, heq⟩ := hA a b _ _ ha hb heq
  obtain ⟨rfl, rfl⟩ := hC c d u v hc hd heq
  exact ⟨rfl, rfl⟩

/-- A presence marker, and the value when there is one. -/
theorem option {valid : α → Prop} {encode : α → List β} (h : PrefixFree valid encode)
    {absent present : β} (hne : absent ≠ present) :
    PrefixFree (fun o : Option α => ∀ a ∈ o, valid a)
      (fun o => match o with
        | none => [absent]
        | some a => present :: encode a) := by
  intro o p u v ho hp heq
  cases o with
  | none =>
      cases p with
      | none => exact ⟨rfl, List.append_cancel_left heq⟩
      | some b => exact absurd (List.cons.inj heq).1 hne
  | some a =>
      cases p with
      | none => exact absurd (List.cons.inj heq).1 hne.symm
      | some b =>
          obtain ⟨rfl, rfl⟩ := h a b u v (ho a rfl) (hp b rfl) (List.cons.inj heq).2
          exact ⟨rfl, rfl⟩

private theorem flatMap_cancel {valid : α → Prop} {encode : α → List β}
    (h : PrefixFree valid encode) (l m : List α) (u v : List β) (hl : ∀ a ∈ l, valid a)
    (hm : ∀ a ∈ m, valid a) (hlength : l.length = m.length)
    (heq : l.flatMap encode ++ u = m.flatMap encode ++ v) : l = m ∧ u = v := by
  induction l generalizing m with
  | nil =>
      obtain rfl := List.length_eq_zero_iff.mp hlength.symm
      exact ⟨rfl, heq⟩
  | cons a l ih =>
      obtain _ | ⟨b, m⟩ := m
      · cases hlength
      · rw [List.flatMap_cons, List.flatMap_cons, List.append_assoc, List.append_assoc] at heq
        obtain ⟨rfl, htail⟩ :=
          h a b _ _ (hl a List.mem_cons_self) (hm b List.mem_cons_self) heq
        obtain ⟨rfl, rfl⟩ := ih m (fun x hx => hl x (List.mem_cons_of_mem _ hx))
          (fun x hx => hm x (List.mem_cons_of_mem _ hx)) (Nat.succ.inj hlength) htail
        exact ⟨rfl, rfl⟩

/-- A length, and then that many values. -/
theorem list {valid : α → Prop} {encode : α → List β} {validLength : Nat → Prop}
    {encodeLength : Nat → List β} (h : PrefixFree valid encode)
    (hn : PrefixFree validLength encodeLength) :
    PrefixFree (fun l : List α => validLength l.length ∧ ∀ a ∈ l, valid a)
      (fun l => encodeLength l.length ++ l.flatMap encode) := by
  rintro l m u v ⟨hlen, hl⟩ ⟨hlen', hm⟩ heq
  rw [List.append_assoc, List.append_assoc] at heq
  obtain ⟨hlength, heq⟩ := hn _ _ _ _ hlen hlen' heq
  exact flatMap_cancel h l m u v hl hm hlength heq

end PrefixFree
