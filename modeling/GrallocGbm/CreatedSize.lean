/-
  Is the object that is created large enough?

  `gralloc_gbm_android_buffer_new` adjusts the size it asks gbm for: for a cursor, for the alignment
  of a cursor, and for YV12, whose planes are packed into rows of two-byte pixels.  The adjustments
  are made one after the other on `int32_t`; they are repeated here operation by operation
  (`newSizeSteps`), to show that none of them overflows, and that what comes out covers the request
  (`created_covers`).

  For YV12 that is the luma plane of S bytes a row, S being the width rounded up to 32, and two
  chroma planes of half as many bytes in half as many rows, rounded up.  The object has half of S
  pixels of two bytes a row, and the rows of a cursor only add to it.

  1. **The computation** — `newSizeSteps` is `newSize` once more, as a `Traced` computation whose
     trace is the exact result of each addition, subtraction and division (`newSizeSteps_value`).

  2. **No overflow** — `newSizeSteps_fits`, for every descriptor within the limits.  The cursor
     block adds at most 67 to an extent of at most 16384; the YV12 block adds half of the rows.

  3. **Covering** — on `Nat`, where the computation is known from `Agreement`: for any other format
     the extents only grow (`newSizeNat_covers`), and for YV12 the number of bytes is compared
     (`newSizeNat_covers_yv12`).

  Whether the limits are kept is another question (`Acceptance`); a negative extent is not within
  them.
-/
import GrallocGbm.Lib.SignedSteps
import GrallocGbm.Acceptance

namespace GrallocGbm

open Align SignedSteps

/-! ## The computation, operation by operation

  The adjustments with every signed operation on its own, so that its exact result is on record
  next to the one that the type can hold. -/

/-- The cursor block, for one extent. -/
def cursorExtentSteps (cfg : BuildConfig) (x : Int32) : Traced Int Int32 :=
  if cfg.noCursorAligning then pure (cMax x 64) else SignedSteps.alignUp (cMax x 64) 4

/-- The cursor block. -/
def cursorSteps (cfg : BuildConfig) (desc : AllocatorDesc) (flags : UInt32) :
    Traced Int (Int32 × Int32) :=
  if flags &&& gbmBoUseCursor ≠ 0 then do
    let width ← cursorExtentSteps cfg desc.width
    let height ← cursorExtentSteps cfg desc.height
    pure (width, height)
  else pure (desc.width, desc.height)

/-- The YV12 adjustment: a new width, and rows added to the height. -/
def yv12Steps (desc : AllocatorDesc) (size : Int32 × Int32) : Traced Int (Int32 × Int32) :=
  if desc.format.toUInt32 = halPixelFormatYv12 then do
    let width ← SignedSteps.alignUp desc.width 32
    let width ← div width 2
    let chroma ← SignedSteps.alignUp desc.height 2
    let chroma ← div chroma 2
    let height ← add size.2 chroma
    pure (width, height)
  else pure size

/-- `newSize`, with the result of every addition, subtraction and division. -/
def newSizeSteps (cfg : BuildConfig) (desc : AllocatorDesc) (flags : UInt32) :
    Traced Int (Int32 × Int32) := do
  let size ← cursorSteps cfg desc flags
  yv12Steps desc size

section

variable {cfg : BuildConfig} {desc : AllocatorDesc} {flags : UInt32}

/-- The cursor block is the one of the model, for one extent -/
theorem cursorExtentSteps_value (x : Int32) : (cursorExtentSteps cfg x).value = cursorExtent cfg x := by
  unfold cursorExtentSteps cursorExtent
  split <;> rfl

/-- and for both. -/
theorem cursorSteps_value : (cursorSteps cfg desc flags).value
    = if flags &&& gbmBoUseCursor ≠ 0 then (cursorExtent cfg desc.width, cursorExtent cfg desc.height)
      else (desc.width, desc.height) := by
  unfold cursorSteps
  split
  · simp only [Traced.value_bind, Traced.value_pure, cursorExtentSteps_value]
  · rfl

/-- The computation is the one of the model. -/
theorem newSizeSteps_value : (newSizeSteps cfg desc flags).value = newSize cfg desc flags := by
  unfold newSizeSteps newSize
  rw [Traced.value_bind, cursorSteps_value]
  unfold yv12Steps
  split <;> split <;> rfl

/-! ## No overflow -/

/-- Within the limits it does not overflow, for one extent -/
theorem cursorExtentSteps_fits {x : Int32} (hx : x.toInt ≤ 16384) :
    (cursorExtentSteps cfg x).Within Fits := by
  have hfour : (4 : Int32).toInt = 4 := rfl
  have hmax : (cMax x 64).toInt = max x.toInt 64 := toInt_cMax x 64
  unfold cursorExtentSteps
  split
  · exact Traced.within_pure _
  · apply alignUp_fits <;> omega

/-- and for both. -/
theorem cursorSteps_fits (hd : DescInRange desc) : (cursorSteps cfg desc flags).Within Fits := by
  unfold cursorSteps
  split
  · simp only [Traced.within_bind, Traced.within_pure, and_true]
    exact ⟨cursorExtentSteps_fits hd.width_le, cursorExtentSteps_fits hd.height_le⟩
  · exact Traced.within_pure _

/-- The height after the cursor block. -/
theorem cursorSteps_height (hd : DescInRange desc) :
    1 ≤ (cursorSteps cfg desc flags).value.2.toInt ∧
      (cursorSteps cfg desc flags).value.2.toInt < 2 ^ 15 := by
  have hle := hd.height_le
  rw [cursorSteps_value]
  split
  · have hbounds := cursorNat_bounds cfg desc.height.toInt.toNat
    have hint := toInt_cursorExtent cfg (x := desc.height) (by omega)
    constructor <;> dsimp only <;> omega
  · exact ⟨hd.height_pos, by dsimp only; omega⟩

/-- No operation of the computation overflows. -/
theorem newSizeSteps_fits (hd : DescInRange desc) : (newSizeSteps cfg desc flags).Within Fits := by
  have hsize : 1 ≤ (cursorSteps cfg desc flags).value.2.toInt ∧
      (cursorSteps cfg desc flags).value.2.toInt < 2 ^ 15 := cursorSteps_height hd
  have h2 : (2 : Int32).toInt = 2 := rfl
  have h32 : (32 : Int32).toInt = 32 := rfl
  unfold newSizeSteps
  rw [Traced.within_bind]
  refine ⟨cursorSteps_fits hd, ?_⟩
  obtain ⟨hw1, hw2, hh1, hh2⟩ := hd
  unfold yv12Steps
  split
  · have hchroma : (Align.alignUp desc.height 2 / 2).toInt = _ :=
      toInt_alignUp_div_two (x := desc.height) (k := 1) (by omega) (by omega) (by omega)
    have hround := roundUp_lt (by omega : 0 < 2 ^ 1) desc.height.toInt.toNat
    simp only [Traced.within_bind, Traced.within_pure, and_true, within_div, within_add, value_div,
      value_alignUp]
    refine ⟨alignUp_fits (by omega) (by omega) (by omega), fits_tdiv_two _,
      alignUp_fits (by omega) (by omega) (by omega), fits_tdiv_two _, ?_⟩
    rw [hchroma]
    constructor <;> omega
  · exact Traced.within_pure _

/-! ## Covering the request

  What gbm is asked for, against what the client has asked for: both extents, or for YV12, which
  is created in another format, the bytes of its three planes. -/

/-- Half of the rows, rounded up. -/
theorem roundUp_two_div (n : Nat) : roundUp 2 n / 2 = (n + 1) / 2 := by
  unfold roundUp
  rw [Nat.mul_div_cancel _ (by omega)]

/-- Any format but YV12: the extents only grow. -/
theorem newSizeNat_covers (cfg : BuildConfig) (cursor : Bool) (w h : Nat) :
    w ≤ (newSizeNat cfg cursor false w h).1 ∧ h ≤ (newSizeNat cfg cursor false w h).2 := by
  have hw := (cursorNat_bounds cfg w).1
  have hh := (cursorNat_bounds cfg h).1
  cases cursor
  · exact ⟨le_refl w, le_refl h⟩
  · exact ⟨hw, hh⟩

/-- YV12: the rows of two-byte pixels hold the three planes. -/
theorem newSizeNat_covers_yv12 (cfg : BuildConfig) (cursor : Bool) (w h : Nat) :
    let stride := roundUp 32 w
    let size := newSizeNat cfg cursor true w h
    stride * h + 2 * (stride / 2) * ((h + 1) / 2) ≤ 2 * size.1 * size.2 := by
  intro stride size
  have heven : 2 * (stride / 2) = stride :=
    Nat.mul_div_cancel' (Nat.dvd_trans (by decide) (dvd_roundUp 32 w))
  have hwidth : 2 * size.1 = stride := heven
  have hheight : h + (h + 1) / 2 ≤ size.2 := by
    have hrows : h ≤ if cursor then cursorNat cfg h else h := by
      split
      · exact (cursorNat_bounds cfg h).1
      · exact le_refl h
    have hsize : size.2 = (if cursor then cursorNat cfg h else h) + roundUp 2 h / 2 := rfl
    rw [hsize, roundUp_two_div]
    exact Nat.add_le_add_right hrows _
  calc stride * h + 2 * (stride / 2) * ((h + 1) / 2)
      = stride * (h + (h + 1) / 2) := by rw [heven, Nat.mul_add]
    _ ≤ stride * size.2 := Nat.mul_le_mul_left stride hheight
    _ = 2 * size.1 * size.2 := by rw [hwidth]

/-- What a size covers: the extents requested, or for YV12 the bytes of the three planes. -/
def CoversRequest (desc : AllocatorDesc) (width height : Nat) : Prop :=
  let w := desc.width.toInt.toNat
  let h := desc.height.toInt.toNat
  if desc.format.toUInt32 = halPixelFormatYv12 then
    let stride := roundUp 32 w
    stride * h + 2 * (stride / 2) * ((h + 1) / 2) ≤ 2 * width * height
  else w ≤ width ∧ h ≤ height

/-- **The object covers the request.**  Of every descriptor within the limits, whatever its format and
    its usage, the size passed to `gbm_bo_create` is computed without overflow, and it covers the size
    requested. -/
theorem created_covers (hd : DescInRange desc) {args : BoArgs} (hargs : CreatesWith cfg desc args) :
    let steps := newSizeSteps cfg desc (descFlags cfg desc)
    steps.Within Fits ∧ (args.width, args.height) = steps.value.map Int32.toUInt32 Int32.toUInt32 ∧
      CoversRequest desc args.width.toNat args.height.toNat := by
  intro steps
  have hsize := newSize_toNat cfg hd (descFlags cfg desc)
  rw [createsWith_iff.mp hargs]
  refine ⟨newSizeSteps_fits hd, ?_, ?_⟩
  · show _ = (newSizeSteps cfg desc (descFlags cfg desc)).value.map _ _
    rw [newSizeSteps_value]
    rfl
  · have hwidth : (newArgs cfg desc).width.toNat = _ := hsize.1
    have hheight : (newArgs cfg desc).height.toNat = _ := hsize.2
    rw [hwidth, hheight]
    unfold CoversRequest
    by_cases hyv12 : desc.format.toUInt32 = halPixelFormatYv12
    · have his : isYv12 desc.format.toUInt32 = true := decide_eq_true hyv12
      rw [if_pos hyv12, his]
      exact newSizeNat_covers_yv12 cfg _ _ _
    · have his : isYv12 desc.format.toUInt32 = false := decide_eq_false hyv12
      rw [if_neg hyv12, his]
      exact newSizeNat_covers cfg _ _ _

end

/-- A YV12 cursor of 33x33. -/
def yv12Cursor : AllocatorDesc := ⟨33, 33, 1, halPixelFormatYv12.toInt32, 0x8033, 0⟩

/-- Its object has the bytes of the three planes. -/
theorem yv12Cursor_covers :
    let args := newArgs .androidBp yv12Cursor
    let steps := newSizeSteps .androidBp yv12Cursor (descFlags .androidBp yv12Cursor)
    steps.Within Fits ∧ (args.width, args.height) = steps.value.map Int32.toUInt32 Int32.toUInt32 ∧
      CoversRequest yv12Cursor args.width.toNat args.height.toNat :=
  created_covers ⟨by decide, by decide, by decide, by decide⟩ (createsWith_iff.mpr rfl)

end GrallocGbm
