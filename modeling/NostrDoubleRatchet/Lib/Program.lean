import Mathlib.Logic.Basic

/-!
Fallible programs over a state. A program that fails keeps the state it had reached, so
what holds of a run is stated of its result and its final state together: `Moves` for a
relation every part of a program stays in, `Yields` for what a successful run returns.
-/

/-- A program that returns a value or fails, and leaves a state either way. -/
abbrev Program (ε σ : Type) := ExceptT ε (StateM σ)

namespace Program

variable {ε σ α β : Type}

def exec (x : Program ε σ α) (s : σ) : Except ε α × σ := x s

/-- Read a part of the state. -/
def read (f : σ → α) : Program ε σ α := fun s => (.ok (f s), s)

def update (f : σ → σ) : Program ε σ Unit := fun s => (.ok (), f s)

def ofExcept (result : Except ε α) : Program ε σ α := fun s => (result, s)

@[simp] theorem exec_pure (a : α) (s : σ) : exec (pure a : Program ε σ α) s = (.ok a, s) := rfl

@[simp] theorem exec_throw (e : ε) (s : σ) :
    exec (throw e : Program ε σ α) s = (.error e, s) := rfl

@[simp] theorem exec_read (f : σ → α) (s : σ) :
    exec (read f : Program ε σ α) s = (.ok (f s), s) := rfl

@[simp] theorem exec_update (f : σ → σ) (s : σ) :
    exec (update f : Program ε σ Unit) s = (.ok (), f s) := rfl

@[simp] theorem exec_ofExcept (result : Except ε α) (s : σ) :
    exec (ofExcept result : Program ε σ α) s = (result, s) := rfl

theorem exec_bind (x : Program ε σ α) (f : α → Program ε σ β) (s : σ) :
    exec (x >>= f) s =
      match exec x s with
      | (.error e, t) => (.error e, t)
      | (.ok a, t) => exec (f a) t := by
  have hbind : exec (x >>= f) s = ExceptT.bindCont f (exec x s).1 (exec x s).2 := rfl
  rw [hbind]
  rcases exec x s with ⟨_ | a, t⟩
  · rfl
  · rfl

theorem exec_bind_ok {x : Program ε σ α} {a : α} {s t : σ} (h : exec x s = (.ok a, t))
    (f : α → Program ε σ β) : exec (x >>= f) s = exec (f a) t := by
  rw [exec_bind, h]

theorem exec_bind_error {x : Program ε σ α} {e : ε} {s t : σ} (h : exec x s = (.error e, t))
    (f : α → Program ε σ β) : exec (x >>= f) s = (.error e, t) := by
  rw [exec_bind, h]

@[simp] theorem exec_read_bind (g : σ → α) (f : α → Program ε σ β) (s : σ) :
    exec (read g >>= f) s = exec (f (g s)) s := rfl

@[simp] theorem exec_update_bind (g : σ → σ) (f : Unit → Program ε σ β) (s : σ) :
    exec (update g >>= f) s = exec (f ()) (g s) := rfl

theorem exec_ofExcept_bind (result : Except ε α) (f : α → Program ε σ β) (s : σ) :
    exec (ofExcept result >>= f) s =
      match result with
      | .error e => (.error e, s)
      | .ok a => exec (f a) s := by
  rw [exec_bind, exec_ofExcept]
  cases result with
  | error e => rfl
  | ok a => rfl

@[simp] theorem exec_map (g : α → β) (x : Program ε σ α) (s : σ) :
    exec (g <$> x) s = ((exec x s).1.map g, (exec x s).2) := by
  have hmap : exec (g <$> x) s = exec (x >>= fun a => pure (g a)) s := rfl
  rw [hmap, exec_bind]
  rcases exec x s with ⟨_ | a, t⟩
  · rfl
  · rfl

/-- A sequence succeeds exactly when both parts do. -/
theorem bind_eq_ok {x : Program ε σ α} {f : α → Program ε σ β} {s t : σ} {b : β} :
    exec (x >>= f) s = (.ok b, t) ↔
      ∃ a mid, exec x s = (.ok a, mid) ∧ exec (f a) mid = (.ok b, t) := by
  rw [exec_bind]
  rcases exec x s with ⟨_ | a, mid⟩
  · simp
  · constructor
    · intro h
      exact ⟨a, mid, rfl, h⟩
    · rintro ⟨a', mid', heq, h⟩
      cases heq
      exact h

/-- A sequence fails in its first part or in its second. -/
theorem bind_eq_error {x : Program ε σ α} {f : α → Program ε σ β} {s t : σ} {e : ε} :
    exec (x >>= f) s = (.error e, t) ↔
      exec x s = (.error e, t) ∨
        ∃ a mid, exec x s = (.ok a, mid) ∧ exec (f a) mid = (.error e, t) := by
  rw [exec_bind]
  rcases exec x s with ⟨_ | a, mid⟩
  · simp
  · constructor
    · intro h
      exact Or.inr ⟨a, mid, rfl, h⟩
    · rintro (heq | ⟨a', mid', heq, h⟩)
      · cases heq
      · cases heq
        exact h

/-- However the program ends, it has moved the state along `r`. -/
def Moves (r : σ → σ → Prop) (x : Program ε σ α) : Prop :=
  ∀ s, r s (exec x s).2

namespace Moves

variable {r : σ → σ → Prop}

theorem of_still (hrefl : ∀ s, r s s) {x : Program ε σ α} (h : ∀ s, (exec x s).2 = s) :
    Moves r x := by
  intro s
  rw [h s]
  exact hrefl s

theorem pure (hrefl : ∀ s, r s s) (a : α) : Moves r (Pure.pure a : Program ε σ α) :=
  of_still hrefl fun _ => rfl

theorem throw (hrefl : ∀ s, r s s) (e : ε) : Moves r (MonadExcept.throw e : Program ε σ α) :=
  of_still hrefl fun _ => rfl

theorem read (hrefl : ∀ s, r s s) (f : σ → α) : Moves r (Program.read f : Program ε σ α) :=
  of_still hrefl fun _ => rfl

theorem ofExcept (hrefl : ∀ s, r s s) (result : Except ε α) :
    Moves r (Program.ofExcept result : Program ε σ α) :=
  of_still hrefl fun _ => rfl

theorem update {f : σ → σ} (h : ∀ s, r s (f s)) : Moves r (Program.update f : Program ε σ Unit) :=
  h

/-- The rule for a sequence from one state: the second part starts where a successful
first part has ended. -/
theorem bind_at (htrans : ∀ s t u, r s t → r t u → r s u) {x : Program ε σ α}
    {f : α → Program ε σ β} {s : σ} (hx : r s (exec x s).2)
    (hf : ∀ a t, exec x s = (.ok a, t) → r t (exec (f a) t).2) :
    r s (exec (x >>= f) s).2 := by
  generalize hrun : exec x s = outcome at hx hf
  obtain ⟨_ | a, t⟩ := outcome
  · rw [exec_bind_error hrun]
    exact hx
  · rw [exec_bind_ok hrun]
    exact htrans s t _ hx (hf a t rfl)

theorem bind (htrans : ∀ s t u, r s t → r t u → r s u) {x : Program ε σ α}
    {f : α → Program ε σ β} (hx : Moves r x) (hf : ∀ a, Moves r (f a)) : Moves r (x >>= f) :=
  fun s => bind_at htrans (hx s) fun a t _ => hf a t

theorem mono {r' : σ → σ → Prop} {x : Program ε σ α} (h : Moves r x)
    (hle : ∀ s t, r s t → r' s t) : Moves r' x :=
  fun s => hle s _ (h s)

theorem ite {c : Prop} [Decidable c] {x y : Program ε σ α} (hx : Moves r x) (hy : Moves r y) :
    Moves r (if c then x else y) := by
  split
  · exact hx
  · exact hy

end Moves

/-- What a successful run returns. -/
def Yields (P : α → Prop) (x : Program ε σ α) : Prop :=
  ∀ s a t, exec x s = (.ok a, t) → P a

namespace Yields

variable {P : α → Prop} {Q : β → Prop}

theorem pure {a : α} (h : P a) : Yields P (Pure.pure a : Program ε σ α) := by
  intro s b t hrun
  cases hrun
  exact h

theorem bind {x : Program ε σ α} {f : α → Program ε σ β} (hx : Yields P x)
    (hf : ∀ a, P a → Yields Q (f a)) : Yields Q (x >>= f) := by
  intro s b t hrun
  obtain ⟨a, mid, hfirst, hsecond⟩ := bind_eq_ok.mp hrun
  exact hf a (hx s a mid hfirst) mid b t hsecond

theorem true (x : Program ε σ α) : Yields (fun _ => True) x := fun _ _ _ _ => trivial

end Yields

end Program
