import Mathlib.Algebra.Module.ZMod
import Mathlib.Data.Nat.Prime.Defs

/-!
A cyclic group of prime order whose points come in pairs of opposites, told apart by a parity. A
public key keeps of a point only its pair, and stands for the even point of it; a secret is
normalised by taking the scalar that belongs to the even point.
-/

/-- The scalars `ZMod q` name the points of `G`, and of two opposite points one is even. -/
structure XOnlyGroup (q : ℕ) (G : Type) [AddCommGroup G] [Module (ZMod q) G] where
  prime : q.Prime
  generator : G
  generates : Function.Bijective (fun scalar : ZMod q => scalar • generator)
  oddY : G → Bool
  oddY_neg : ∀ point : G, point ≠ 0 → oddY (-point) = !oddY point

namespace XOnlyGroup

variable {q : ℕ} {G : Type} [AddCommGroup G] [Module (ZMod q) G] (group : XOnlyGroup q G)

/-- The even point of the pair. -/
def even (point : G) : G := if group.oddY point then -point else point

/-- The scalar of the even point. -/
def normal (scalar : ZMod q) : ZMod q :=
  if group.oddY (scalar • group.generator) then -scalar else scalar

theorem even_eq_or (point : G) : group.even point = point ∨ group.even point = -point := by
  unfold even
  split
  · exact Or.inr rfl
  · exact Or.inl rfl

theorem even_neg (point : G) : group.even (-point) = group.even point := by
  by_cases hzero : point = 0
  · rw [hzero, neg_zero]
  · unfold even
    rw [group.oddY_neg point hzero]
    cases group.oddY point with
    | false => simp
    | true => simp

theorem even_smul_even (scalar : ZMod q) (point : G) :
    group.even (scalar • group.even point) = group.even (scalar • point) := by
  rcases group.even_eq_or point with heq | heq
  · rw [heq]
  · rw [heq, smul_neg, group.even_neg]

theorem smul_generator_ne_zero {scalar : ZMod q} (h : scalar ≠ 0) :
    scalar • group.generator ≠ 0 := by
  intro hzero
  apply h
  apply group.generates.injective
  simpa using hzero

/-- The even point of a secret belongs to the normalised secret. -/
theorem even_smul_generator (scalar : ZMod q) :
    group.even (scalar • group.generator) = group.normal scalar • group.generator := by
  unfold even normal
  split
  · rw [neg_smul]
  · rfl

/-- Two secrets agree on a pair, each of them knowing of the other its pair alone. -/
theorem agree (a b : ZMod q) :
    group.even (a • group.even (b • group.generator)) =
      group.even (b • group.even (a • group.generator)) := by
  rw [group.even_smul_even, group.even_smul_even, ← mul_smul, ← mul_smul, mul_comm]

/-- A tweak of the pair of a secret is the same tweak of the normalised secret. -/
theorem tweak (secret scalar : ZMod q) :
    group.even (secret • group.generator) + scalar • group.generator =
      (group.normal secret + scalar) • group.generator := by
  rw [group.even_smul_generator, add_smul]

theorem tweak_eq_zero_iff (secret scalar : ZMod q) :
    group.even (secret • group.generator) + scalar • group.generator = 0 ↔
      group.normal secret + scalar = 0 := by
  rw [group.tweak]
  constructor
  · intro h
    apply group.generates.injective
    simpa using h
  · intro h
    rw [h, zero_smul]

end XOnlyGroup
