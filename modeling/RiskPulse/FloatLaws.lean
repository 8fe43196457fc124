import Mathlib.Algebra.Order.AbsoluteValue.Basic
import RiskPulse.ScoringPipeline

namespace RiskPulse

namespace PyFloat

-- The sum of what the machine holds exactly, with the infinities.
def exactPlus : PyFloat → PyFloat → PyFloat
  | .finite a,.finite b => .finite (a + b)
  | .finite _,.infinity negative => .infinity negative
  | .infinity negative,.finite _ => .infinity negative
  | .infinity a,.infinity b => if a = b then .infinity a else .nan
  | _,_ => .nan

-- A float that is at least as high as another is not nan.
theorem ge_self (number : ge a b = true) : ge a a = true := by
  cases a with
  | nan => simp [ge,greater] at number
  | finite q => simp [ge]
  | infinity negative => simp [ge]

theorem min_one (x : PyFloat) (number : x.ge bound = true) (small : (finite 1).ge bound = true) :
    (min (.finite 1) x).ge bound = true ∧ (finite 1).ge (min (.finite 1) x) = true := by
  unfold min
  split
  · rename_i less
    exact ⟨number,by rw [ge,less,Bool.true_or]⟩
  · exact ⟨small,by decide⟩

end PyFloat

namespace FloatOperations

-- Zero, or far from where the exponents end.
def Ranged (x : Rat) : Prop := x = 0 ∨ 1 / 2 ^ 1000 ≤ x ∧ x ≤ 2 ^ 1000

-- IEEE 754 on what is not negative: a sum is never below its first term and a product
-- never below zero, and a result in the range is off by a relative error that is small.
structure Rounded (f : FloatOperations) : Prop where
  grows : ∀ a b : PyFloat, a.ge (.finite 0) = true → b.ge (.finite 0) = true → (f.plus a b).ge a = true
  product : ∀ a b : Rat, 0 ≤ a → 0 ≤ b → (f.times (.finite a) (.finite b)).ge (.finite 0) = true
  sums : ∀ a b : Rat, 0 ≤ a → 0 ≤ b → Ranged (a + b) →
    ∃ s, f.plus (.finite a) (.finite b) = .finite s ∧ |s - (a + b)| ≤ (a + b) / 2 ^ 50
  products : ∀ a b : Rat, 0 ≤ a → 0 ≤ b → Ranged (a * b) →
    ∃ p, f.times (.finite a) (.finite b) = .finite p ∧ |p - a * b| ≤ a * b / 2 ^ 50

-- The machine on numbers it holds exactly.
def unrounded : FloatOperations := { FloatOperations.exact with plus := PyFloat.exactPlus }

theorem unrounded_rounded : unrounded.Rounded where
  grows := by
    intro a b positive other
    cases a <;> cases b <;> simp_all [unrounded,PyFloat.exactPlus,PyFloat.ge,PyFloat.greater]
  product := by
    intro a b positive other
    exact (PyFloat.ge_finite _ _).mpr (mul_nonneg positive other)
  sums := by
    intro a b positive other _
    refine ⟨a + b,rfl,?_⟩
    rw [sub_self,abs_zero]
    exact div_nonneg (add_nonneg positive other) (by norm_num)
  products := by
    intro a b positive other _
    refine ⟨a * b,rfl,?_⟩
    rw [sub_self,abs_zero]
    exact div_nonneg (mul_nonneg positive other) (by norm_num)

end FloatOperations
end RiskPulse
