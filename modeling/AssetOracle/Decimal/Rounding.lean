/-!
# Rounding a quotient

`roundHalfEven num den` is the integer nearest to `num / den`, the even one of two that are
equally near. Every conversion between binary and decimal in this library rounds through it.
The two laws below say that it is off by at most half a unit and that a half goes to the
even neighbour.
-/

namespace AssetOracle.Decimal

/-- The integer nearest to `num / den`; a half goes to the even neighbour. -/
def roundHalfEven (num den : Nat) : Nat :=
  let quotient := num / den
  let twice := 2 * (num % den)
  if twice < den then quotient
  else if den < twice then quotient + 1
  else if quotient % 2 = 0 then quotient
  else quotient + 1

/-- The rounded quotient is within half a unit of the exact one. -/
theorem roundHalfEven_near (num den : Nat) (h : 0 < den) :
    2 * num ≤ den * (2 * roundHalfEven num den + 1) ∧
      den * (2 * roundHalfEven num den) ≤ 2 * num + den := by
  have hdiv := Nat.div_add_mod num den
  have hmod := Nat.mod_lt num h
  generalize hq : num / den = q at hdiv
  generalize hr : num % den = r at hdiv hmod
  have expand : ∀ k : Nat, den * (2 * k + 1) = 2 * (den * k) + den := by
    intro k; rw [Nat.mul_add, Nat.mul_left_comm, Nat.mul_one]
  have double : ∀ k : Nat, den * (2 * k) = 2 * (den * k) := by
    intro k; rw [Nat.mul_left_comm]
  have succ : den * (q + 1) = den * q + den := by rw [Nat.mul_add, Nat.mul_one]
  simp only [roundHalfEven, hq, hr, expand, double]
  split
  · omega
  · split
    · rw [succ]; omega
    · split
      · omega
      · rw [succ]; omega

/-- When two integers are equally near, the even one is taken. -/
theorem roundHalfEven_even (num den : Nat) (h : 2 * (num % den) = den) :
    roundHalfEven num den % 2 = 0 := by
  simp only [roundHalfEven, h, Nat.lt_irrefl, if_false]
  split <;> omega

end AssetOracle.Decimal
