import Mathlib.Algebra.Group.Nat.Defs
import Mathlib.Data.Int.Notation
import Mathlib.Data.Nat.Log

/-!
# Quotients in double precision

A quotient of naturals, computed in IEEE 754 binary64 as JavaScript does: every operation
gives the nearest number with 53 significant bits, halves going to the even one. The exponent
is not bounded: a quotient of two 32-bit integers stays far from both ends.
-/

namespace Claims

/-- `Nat` division, rounded to the nearest, halves to the even one. -/
def roundHalfEven (n d : ℕ) : ℕ :=
  let q := n / d
  if 2 * (n % d) < d then q
  else if d < 2 * (n % d) then q + 1
  else q + q % 2

/-- The number `mantissa / 2 ^ shift`. -/
structure Binary64 where
  mantissa : ℕ
  shift : ℕ

namespace Binary64

/-- The nearest number to `n / d`. -/
def ratio (n d : ℕ) : Binary64 :=
  -- `n * 2 ^ s / d` is between `2 ^ 52` and `2 ^ 54`
  let s := 53 + d.log2 - n.log2
  let shift := if n * 2 ^ s < d * 2 ^ 53 then s else s - 1
  if n = 0 then ⟨0, 0⟩ else ⟨roundHalfEven (n * 2 ^ shift) d, shift⟩

/-- The product with a natural number. -/
def scale (x : Binary64) (k : ℕ) : Binary64 := ratio (x.mantissa * k) (2 ^ x.shift)

/-- `Math.round`: halves go up. -/
def round (x : Binary64) : ℤ := ((2 * x.mantissa + 2 ^ x.shift) / (2 * 2 ^ x.shift) : ℕ)

/-- 57 of 200 is 28.5 %, which double precision puts just below. -/
example : ((ratio 57 200).scale 100).round = 28 ∧ ((ratio 1 8).scale 100).round = 13 := by
  decide

end Binary64

end Claims
