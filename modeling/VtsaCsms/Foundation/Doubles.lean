import VtsaCsms.Foundation.Mixed
import VtsaCsms.Foundation.Rounding

/-!
# Doubles

The double that is nearest to a number. Only what is within half a last place of 2^1024 or above becomes infinite.
-/
namespace VtsaCsms.Foundation

/-- `strtod`, and Python's `float` of a number: 53 binary places, none of them below 2^-1074. -/
def Double.ofRat (q : Rat) : Double :=
  let rounded := toPlaces 2 53 (-1074) |q|
  if 2 ^ 1024 ≤ rounded then .infinite (decide (q < 0)) else .finite (if q < 0 then -rounded else rounded)

example : Double.ofRat (1 / 10) = .finite (3602879701896397 / 36028797018963968) := by decide +kernel

theorem Double.ofRat_infinite_iff (q : Rat) :
    (∃ negative, Double.ofRat q = .infinite negative) ↔ (2 : Rat) ^ 1024 - 2 ^ 970 ≤ |q| := by
  have bound := @power_le_toPlaces 2 53 (-1074) |q| (by decide) (by decide) (by decide) 1024 (by decide) (by decide)
  have power : ((2 : Nat) : Rat) ^ (1024 : Int) = 2 ^ 1024 := by
    rw [Nat.cast_ofNat]
    exact zpow_natCast 2 1024
  have half : ((2 : Nat) : Rat) ^ ((1024 : Int) - (53 : Nat)) / 2 = 2 ^ 970 := by
    have last : (1024 : Int) - (53 : Nat) = ((970 + 1 : Nat) : Int) := by decide
    rw [Nat.cast_ofNat, last, zpow_natCast, pow_succ, mul_div_assoc, div_self two_ne_zero, mul_one]
  rw [power, half] at bound
  rw [← bound]
  unfold Double.ofRat
  simp only
  split
  · rename_i overflows
    exact ⟨fun _ => overflows, fun _ => ⟨_, rfl⟩⟩
  · rename_i finite
    exact ⟨fun ⟨_, isInfinite⟩ => (by cases isInfinite), fun overflows => absurd overflows finite⟩

end VtsaCsms.Foundation
