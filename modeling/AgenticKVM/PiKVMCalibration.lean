import Mathlib
import AgenticKVM.Python
import AgenticKVM.Lib.Rounding

/-! # Pointer calibration

The conversion of screenshot pixels to the absolute coordinates of the pointer
(`pikvm_calibration.py`). A pixel is clamped to the screen, scaled so that the last one lands on the
largest coordinate, and rounded half to even. An axis that does this is sound (`AxisSound`),
whatever its extent: neighbouring pixels are at least one coordinate apart as long as the screen has
no more pixels than there are coordinates. -/

namespace AgenticKVM

open Lib (roundHalfEven roundHalfEven_intCast roundHalfEven_mono roundHalfEven_lt_of_add_one_lt)

/-- `PIKVM_ABSOLUTE_MAX`. -/
def pikvmAbsoluteMax : Int := 65535

/-- `PiKVMScreenshotCalibration`: a screen of more than one pixel in both directions. -/
structure PiKVMScreenshotCalibration where
  width : Int
  height : Int
  wide : 1 < width
  high : 1 < height

/-- `PiKVMScreenshotCalibration.__post_init__`. -/
def PiKVMScreenshotCalibration.init (width height : Int) :
    Except PyExc PiKVMScreenshotCalibration :=
  if sized : 1 < width ∧ 1 < height then .ok ⟨width, height, sized.1, sized.2⟩
  else .error
    (.valueError "screenshot calibration requires width and height greater than 1")

/-- The coordinates that `map_point` returns under their keys. -/
structure AbsolutePoint where
  absoluteX : Int
  absoluteY : Int
deriving DecidableEq

/-- `min(max(pixel, 0), extent - 1)`. -/
def clampedPixel (extent pixel : Int) : Int := min (max pixel 0) (extent - 1)

/-- `clamped * PIKVM_ABSOLUTE_MAX / (extent - 1)`, taken exactly. -/
def scaledPixel (extent clamped : Int) : Rat :=
  (clamped * pikvmAbsoluteMax : Int) / (extent - 1 : Int)

/-- The coordinate of a pixel on an axis of this extent. -/
def absoluteCoordinate (extent pixel : Int) : Int :=
  roundHalfEven (scaledPixel extent (clampedPixel extent pixel))

/-- `PiKVMScreenshotCalibration.map_point`. -/
def PiKVMScreenshotCalibration.mapPoint (calibration : PiKVMScreenshotCalibration) (x y : Int) :
    AbsolutePoint :=
  ⟨absoluteCoordinate calibration.width x, absoluteCoordinate calibration.height y⟩

/-- **A sound axis**: its coordinates are in range and in order, its ends are the ends of the range,
pixels off the screen land on the nearest end, and no two pixels of a screen with at most as many
pixels as there are coordinates share one. -/
structure AxisSound (extent : Int) (coordinate : Int → Int) : Prop where
  inRange : ∀ pixel, coordinate pixel ∈ Set.Icc 0 pikvmAbsoluteMax
  monotone : Monotone coordinate
  first : coordinate 0 = 0
  last : coordinate (extent - 1) = pikvmAbsoluteMax
  before : ∀ pixel, pixel < 0 → coordinate pixel = 0
  beyond : ∀ pixel, extent ≤ pixel → coordinate pixel = pikvmAbsoluteMax
  injective : extent ≤ pikvmAbsoluteMax + 1 → Set.InjOn coordinate (Set.Ico 0 extent)

/-! ## Clamping -/

section Axis

variable {extent : Int} (wide : 1 < extent)
include wide

theorem clampedPixel_mono : Monotone (clampedPixel extent) := by
  intro pixel pixel' le
  simp only [clampedPixel]
  omega

omit wide in
/-- A pixel on the screen stays where it is. -/
theorem clampedPixel_of_mem {pixel : Int} (onScreen : pixel ∈ Set.Ico 0 extent) :
    clampedPixel extent pixel = pixel := by
  obtain ⟨low, high⟩ := onScreen
  simp only [clampedPixel]
  omega

theorem clampedPixel_before {pixel : Int} (before : pixel ≤ 0) : clampedPixel extent pixel = 0 := by
  simp only [clampedPixel]
  omega

theorem clampedPixel_beyond {pixel : Int} (beyond : extent - 1 ≤ pixel) :
    clampedPixel extent pixel = extent - 1 := by
  simp only [clampedPixel]
  omega

/-! ## Scaling -/

theorem extent_pos : (0 : Rat) < (extent - 1 : Int) := by
  have positive : 0 < extent - 1 := by omega
  exact_mod_cast positive

omit wide in
@[simp] theorem scaledPixel_zero : scaledPixel extent 0 = (0 : Int) := by
  simp [scaledPixel]

theorem scaledPixel_last : scaledPixel extent (extent - 1) = pikvmAbsoluteMax := by
  have positive := extent_pos wide
  rw [scaledPixel, Int.cast_mul, mul_comm]
  exact mul_div_cancel_right₀ _ positive.ne'

theorem scaledPixel_mono : Monotone (scaledPixel extent) := by
  intro pixel pixel' le
  have scaled : pixel * pikvmAbsoluteMax ≤ pixel' * pikvmAbsoluteMax :=
    mul_le_mul_of_nonneg_right le (by decide)
  apply div_le_div_of_nonneg_right _ (extent_pos wide).le
  exact_mod_cast scaled

omit wide in
/-- With as many pixels as coordinates, a pixel is scaled to itself. -/
theorem scaledPixel_full (pixel : Int) : scaledPixel (pikvmAbsoluteMax + 1) pixel = pixel := by
  rw [scaledPixel, add_sub_cancel_right, Int.cast_mul]
  apply mul_div_cancel_right₀
  decide

/-- **Neighbouring pixels are spread**: with fewer pixels than coordinates, they are scaled to
points more than one apart. -/
theorem scaledPixel_add_one_lt (fewer : extent < pikvmAbsoluteMax + 1) {pixel pixel' : Int}
    (less : pixel < pixel') : scaledPixel extent pixel + 1 < scaledPixel extent pixel' := by
  have positive := extent_pos wide
  have numerators : pixel * pikvmAbsoluteMax + (extent - 1) < pixel' * pikvmAbsoluteMax := by
    have step : (pixel + 1) * pikvmAbsoluteMax ≤ pixel' * pikvmAbsoluteMax :=
      mul_le_mul_of_nonneg_right less (by decide)
    rw [add_mul, one_mul] at step
    omega
  calc scaledPixel extent pixel + 1
      = (pixel * pikvmAbsoluteMax + (extent - 1) : Int) / (extent - 1 : Int) := by
        rw [scaledPixel, Int.cast_add, add_div, div_self positive.ne']
    _ < scaledPixel extent pixel' := by
        apply div_lt_div_of_pos_right _ positive
        exact_mod_cast numerators

/-! ## Coordinates -/

/-- **Every axis is sound.** -/
theorem absoluteCoordinate_sound : AxisSound extent (absoluteCoordinate extent) := by
  have monotone : Monotone (absoluteCoordinate extent) :=
    roundHalfEven_mono.comp ((scaledPixel_mono wide).comp (clampedPixel_mono wide))
  have first : ∀ pixel ≤ 0, absoluteCoordinate extent pixel = 0 := by
    intro pixel before
    rw [absoluteCoordinate, clampedPixel_before wide before, scaledPixel_zero,
      roundHalfEven_intCast]
  have last : ∀ pixel, extent - 1 ≤ pixel → absoluteCoordinate extent pixel = pikvmAbsoluteMax := by
    intro pixel beyond
    rw [absoluteCoordinate, clampedPixel_beyond wide beyond, scaledPixel_last wide,
      roundHalfEven_intCast]
  refine ⟨?_, monotone, first 0 le_rfl, last _ le_rfl, ?_, ?_, ?_⟩
  · intro pixel
    -- the ends of the axis bound every pixel between them
    rcases le_total pixel 0 with before | after
    · rw [first pixel before]
      decide
    · rcases le_total pixel (extent - 1) with inside | beyond
      · have low := monotone after
        have high := monotone inside
        rw [first 0 le_rfl] at low
        rw [last _ le_rfl] at high
        exact ⟨low, high⟩
      · rw [last pixel beyond]
        decide
  · intro pixel before
    exact first pixel before.le
  · intro pixel beyond
    exact last pixel (by omega)
  · intro few
    apply StrictMonoOn.injOn
    intro pixel onScreen pixel' onScreen' less
    show roundHalfEven (scaledPixel extent (clampedPixel extent pixel))
      < roundHalfEven (scaledPixel extent (clampedPixel extent pixel'))
    rw [clampedPixel_of_mem onScreen, clampedPixel_of_mem onScreen']
    by_cases full : extent = pikvmAbsoluteMax + 1
    · -- with as many pixels as coordinates each pixel is its own coordinate
      subst full
      rw [scaledPixel_full, scaledPixel_full, roundHalfEven_intCast, roundHalfEven_intCast]
      exact less
    · have fewer : extent < pikvmAbsoluteMax + 1 := by omega
      exact roundHalfEven_lt_of_add_one_lt (scaledPixel_add_one_lt wide fewer less)

end Axis

/-- **The calibration is sound**: on every calibrated screen, either coordinate of a point depends
on its own pixel only, and soundly. -/
theorem PiKVMScreenshotCalibration.mapPoint_sound (calibration : PiKVMScreenshotCalibration) :
    (∀ y, AxisSound calibration.width fun x => (calibration.mapPoint x y).absoluteX) ∧
      ∀ x, AxisSound calibration.height fun y => (calibration.mapPoint x y).absoluteY := by
  constructor
  · intro _
    exact absoluteCoordinate_sound calibration.wide
  · intro _
    exact absoluteCoordinate_sound calibration.high

/-- The middle of a screen of 1280 by 720 pixels. -/
example : (PiKVMScreenshotCalibration.mapPoint ⟨1280, 720, by decide, by decide⟩ 640 360)
    = ⟨32793, 32813⟩ := by
  decide +kernel

end AgenticKVM
