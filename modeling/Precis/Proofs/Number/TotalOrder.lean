import Mathlib.Algebra.Group.Nat.Defs
import Precis.Sentence.Summary

/-!
The total order of floats, said of their bits: the sign first, then the magnitude. It sets the two
zeros apart, and what is no number has a place in it. Ranks are in this order, and no two floats
share one.
-/

namespace Precis

namespace Binary64

def IsNegative (x : Float) : Prop :=
  2 ^ 63 ≤ x.toBits.toNat

/-- The bits without the one of the sign, as a number. -/
def magnitude (x : Float) : Nat :=
  x.toBits.toNat % 2 ^ 63

/-- Negative floats stand below the others. Among those the magnitude decides, and among the
negative ones it decides the other way round. -/
def IsBelow (x y : Float) : Prop :=
  IsNegative x ∧ ¬ IsNegative y ∨
    ¬ IsNegative x ∧ ¬ IsNegative y ∧ magnitude x < magnitude y ∨
    IsNegative x ∧ IsNegative y ∧ magnitude y < magnitude x

instance (x : Float) : Decidable (IsNegative x) :=
  inferInstanceAs (Decidable (2 ^ 63 ≤ x.toBits.toNat))

instance (x y : Float) : Decidable (IsBelow x y) :=
  inferInstanceAs (Decidable (_ ∨ _))

end Binary64

namespace Sentence

open Binary64

variable {a b : Sentence}

/-- The rank of a sentence is the place of its score. -/
theorem rank_lt_rank_iff : a.rank < b.rank ↔ IsBelow a.score b.score := by
  have ha := a.score.toBits.toNat_lt_size
  have hb := b.score.toBits.toNat_lt_size
  have hsize : UInt64.size = 2 * 2 ^ 63 := rfl
  simp only [rank, IsBelow, IsNegative, magnitude]
  split <;> split <;> omega

theorem rank_eq_rank_iff : a.rank = b.rank ↔ a.score.toBits = b.score.toBits := by
  have ha := a.score.toBits.toNat_lt_size
  have hb := b.score.toBits.toNat_lt_size
  have hsize : UInt64.size = 2 * 2 ^ 63 := rfl
  rw [← UInt64.toNat_inj]
  simp only [rank]
  split <;> split <;> omega

end Sentence
end Precis
