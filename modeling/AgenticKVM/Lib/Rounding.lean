import Mathlib

/-! # Rounding half to even

`RoundsHalfEven x n` says that the integer `n` is nearest to `x`, and even where two integers are.
There is exactly one such integer (`RoundsHalfEven.unique`), and `roundHalfEven` computes it in
every linearly ordered field with a floor. Rounding is monotone, fixes the integers and separates
points that are more than one apart. -/

namespace AgenticKVM.Lib

variable {α : Type*} [Field α] [LinearOrder α] [IsStrictOrderedRing α] {x y : α} {m n : ℤ}

/-- **Half to even**: the integer is at most half away, and even where it is exactly half away. -/
structure RoundsHalfEven (x : α) (n : ℤ) : Prop where
  near : |x - n| ≤ 1 / 2
  even : |x - n| = 1 / 2 → Even n

namespace RoundsHalfEven

theorem le_add_half (rounds : RoundsHalfEven x n) : x ≤ n + 1 / 2 := by
  have near := (abs_le.mp rounds.near).2
  linarith

theorem sub_half_le (rounds : RoundsHalfEven x n) : (n : α) - 1 / 2 ≤ x := by
  have near := (abs_le.mp rounds.near).1
  linarith

/-- A point half above its rounding is rounded down to an even integer. -/
theorem even_of_eq_add (rounds : RoundsHalfEven x n) (above : x = n + 1 / 2) : Even n := by
  apply rounds.even
  rw [above, add_sub_cancel_left]
  exact abs_of_pos one_half_pos

/-- A point half below its rounding is rounded up to an even integer. -/
theorem even_of_eq_sub (rounds : RoundsHalfEven x n) (below : x = n - 1 / 2) : Even n := by
  apply rounds.even
  have distance : x - n = -(1 / 2) := by rw [below]; linarith
  rw [distance, abs_neg]
  exact abs_of_pos one_half_pos

/-- **Rounding is monotone.** The one way out of order is a common point half way between two
neighbouring integers, which cannot both be even. -/
theorem mono (rounds : RoundsHalfEven x m) (rounds' : RoundsHalfEven y n) (le : x ≤ y) :
    m ≤ n := by
  by_contra less
  have apart : (n : α) + 1 ≤ m := by exact_mod_cast Int.add_one_le_iff.mpr (not_le.mp less)
  have low := rounds.sub_half_le
  have high := rounds'.le_add_half
  have xEq : x = m - 1 / 2 := by linarith
  have yEq : y = n + 1 / 2 := by linarith
  have step : (m : α) = n + 1 := by linarith
  have next : m = n + 1 := by exact_mod_cast step
  have evenM := rounds.even_of_eq_sub xEq
  have evenN := rounds'.even_of_eq_add yEq
  rw [next, Int.even_add_one] at evenM
  exact evenM evenN

/-- **There is one rounding.** -/
theorem unique (rounds : RoundsHalfEven x m) (rounds' : RoundsHalfEven x n) : m = n :=
  le_antisymm (rounds.mono rounds' le_rfl) (rounds'.mono rounds le_rfl)

/-- An integer is its own rounding. -/
theorem intCast (n : ℤ) : RoundsHalfEven (n : α) n := by
  constructor
  · rw [sub_self, abs_zero]
    exact one_half_pos.le
  · intro half
    rw [sub_self, abs_zero] at half
    exact absurd half.symm one_half_pos.ne'

/-- Points more than one apart have different roundings. -/
theorem lt_of_add_one_lt (rounds : RoundsHalfEven x m) (rounds' : RoundsHalfEven y n)
    (apart : x + 1 < y) : m < n := by
  have low := rounds.sub_half_le
  have high := rounds'.le_add_half
  have less : (m : α) < n := by linarith
  exact_mod_cast less

end RoundsHalfEven

/-! ## The rounding -/

variable [FloorRing α]

/-- The rounding of a point: its floor, or the integer above where that is nearer, or where both are
as near and the floor is odd. -/
def roundHalfEven (x : α) : ℤ :=
  let rest := Int.fract x
  if rest < 1 / 2 then ⌊x⌋
  else if 1 / 2 < rest then ⌊x⌋ + 1
  else if Even ⌊x⌋ then ⌊x⌋
  else ⌊x⌋ + 1

/-- **The function computes the relation.** -/
theorem roundsHalfEven_roundHalfEven (x : α) : RoundsHalfEven x (roundHalfEven x) := by
  have split : x = ⌊x⌋ + Int.fract x := (Int.floor_add_fract x).symm
  have low := Int.fract_nonneg x
  have high := Int.fract_lt_one x
  have down : x - (⌊x⌋ : ℤ) = Int.fract x := by linarith
  have up : x - ((⌊x⌋ + 1 : ℤ) : α) = -(1 - Int.fract x) := by push_cast; linarith
  unfold roundHalfEven
  by_cases below : Int.fract x < 1 / 2
  · rw [if_pos below]
    constructor <;> rw [down, abs_of_nonneg low]
    · exact below.le
    · intro half
      exact absurd half below.ne
  · rw [if_neg below]
    by_cases above : 1 / 2 < Int.fract x
    · rw [if_pos above]
      constructor <;> rw [up, abs_neg, abs_of_nonneg (by linarith)]
      · linarith
      · intro half
        linarith
    · rw [if_neg above]
      -- the point is half way between two integers
      have half : Int.fract x = 1 / 2 := le_antisymm (not_lt.mp above) (not_lt.mp below)
      by_cases even : Even ⌊x⌋
      · rw [if_pos even]
        refine ⟨?_, fun _ => even⟩
        rw [down, half, abs_of_pos one_half_pos]
      · rw [if_neg even]
        refine ⟨?_, fun _ => Int.even_add_one.mpr even⟩
        rw [up, half, abs_neg, abs_of_nonneg (by linarith)]
        linarith

/-- The rounding is the one integer that is nearest, and even among two nearest. -/
theorem roundHalfEven_eq_iff : roundHalfEven x = n ↔ RoundsHalfEven x n := by
  constructor
  · rintro rfl
    exact roundsHalfEven_roundHalfEven x
  · exact (roundsHalfEven_roundHalfEven x).unique

@[simp] theorem roundHalfEven_intCast (n : ℤ) : roundHalfEven (n : α) = n :=
  roundHalfEven_eq_iff.mpr (.intCast n)

theorem roundHalfEven_mono : Monotone (roundHalfEven : α → ℤ) := by
  intro x y le
  exact (roundsHalfEven_roundHalfEven x).mono (roundsHalfEven_roundHalfEven y) le

theorem roundHalfEven_lt_of_add_one_lt (apart : x + 1 < y) :
    roundHalfEven x < roundHalfEven y :=
  (roundsHalfEven_roundHalfEven x).lt_of_add_one_lt (roundsHalfEven_roundHalfEven y) apart

end AgenticKVM.Lib
