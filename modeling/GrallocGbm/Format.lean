/-
  Colour formats (`include/gralloc_gbm_format.h`).

  Android names a pixel format by a `HAL_PIXEL_FORMAT_*` number, GBM by a FourCC code.
  `colorFormatMap` is the table between the two, `colorBppMap` the table of pixel sizes; every
  lookup of the header is the first match of a linear search, with a sentinel when there is none.

  Two things about the sentinels matter to the rest of the development.  `color_fmt_a2g` returns
  `-EINVAL` as a `uint32_t`, so its callers' test `gbm_format <= 0` never sees it
  (`colorFmtA2g_pos`); and `color_bytes_per_pixel` may be `0` (the `EXT_UNKNOWN` entry), which is
  why the pixel stride is an `Option`: dividing by it ends the process.  For a code that the second
  table does not have, the sentinel is `(uint8_t) -1`, and a stride is divided by 255.

  The tables are written down as they stand, in their order, since a code that is listed twice is
  found where it comes first.  They are short lists of constants, so that what the other modules ask
  about them (which codes have a pixel size, which formats share one) is decided by evaluation.

  The `HAL_PIXEL_FORMAT_*` numbers are those of the platform's `system/graphics.h`, and the GBM
  codes are computed from their four letters as `__gbm_fourcc_code` does it.
-/

namespace GrallocGbm

/-! ## Error numbers -/

/-- The kernel's error numbers, as positive numbers; the source returns them negated. -/
def eNOMEM : Int := 12
def eNODEV : Int := 19
def eINVAL : Int := 22

/-! ## Format codes -/

/-- The Android formats that the tables know (`HAL_PIXEL_FORMAT_*`). -/
def halPixelFormatExtUnknown : UInt32 := 0
def halPixelFormatRgba8888 : UInt32 := 1
def halPixelFormatRgbx8888 : UInt32 := 2
def halPixelFormatRgb888 : UInt32 := 3
def halPixelFormatRgb565 : UInt32 := 4
def halPixelFormatBgra8888 : UInt32 := 5
def halPixelFormatYcbcr422Sp : UInt32 := 0x10
def halPixelFormatYcrcb420Sp : UInt32 := 0x11
def halPixelFormatYcbcr422I : UInt32 := 0x14
def halPixelFormatRgbaFp16 : UInt32 := 0x16
def halPixelFormatBlob : UInt32 := 0x21
def halPixelFormatYcbcr420888 : UInt32 := 0x23
def halPixelFormatRgba1010102 : UInt32 := 0x2B
def halPixelFormatYcbcrP010 : UInt32 := 0x36
def halPixelFormatY8 : UInt32 := 0x20203859
def halPixelFormatY16 : UInt32 := 0x20363159
def halPixelFormatYv12 : UInt32 := 0x32315659

/-- `__gbm_fourcc_code(a, b, c, d)`. -/
def gbmFourccCode (a b c d : Char) : UInt32 :=
  a.val ||| (b.val <<< 8) ||| (c.val <<< 16) ||| (d.val <<< 24)

/-- The GBM formats that the tables know (`GBM_FORMAT_*`), from their four letters. -/
def gbmFormatR8 : UInt32 := gbmFourccCode 'R' '8' ' ' ' '
def gbmFormatR16 : UInt32 := gbmFourccCode 'R' '1' '6' ' '
def gbmFormatGr88 : UInt32 := gbmFourccCode 'G' 'R' '8' '8'
def gbmFormatRgb565 : UInt32 := gbmFourccCode 'R' 'G' '1' '6'
def gbmFormatBgr565 : UInt32 := gbmFourccCode 'B' 'G' '1' '6'
def gbmFormatBgr888 : UInt32 := gbmFourccCode 'B' 'G' '2' '4'
def gbmFormatXrgb8888 : UInt32 := gbmFourccCode 'X' 'R' '2' '4'
def gbmFormatXbgr8888 : UInt32 := gbmFourccCode 'X' 'B' '2' '4'
def gbmFormatRgbx8888 : UInt32 := gbmFourccCode 'R' 'X' '2' '4'
def gbmFormatArgb8888 : UInt32 := gbmFourccCode 'A' 'R' '2' '4'
def gbmFormatAbgr8888 : UInt32 := gbmFourccCode 'A' 'B' '2' '4'
def gbmFormatAbgr2101010 : UInt32 := gbmFourccCode 'A' 'B' '3' '0'
def gbmFormatAbgr16161616f : UInt32 := gbmFourccCode 'A' 'B' '4' 'H'
def gbmFormatVyuy : UInt32 := gbmFourccCode 'V' 'Y' 'U' 'Y'
def gbmFormatNv12 : UInt32 := gbmFourccCode 'N' 'V' '1' '2'
def gbmFormatNv21 : UInt32 := gbmFourccCode 'N' 'V' '2' '1'
def gbmFormatYuv420 : UInt32 := gbmFourccCode 'Y' 'U' '1' '2'
def gbmFormatYvu420 : UInt32 := gbmFourccCode 'Y' 'V' '1' '2'
def gbmFormatYuv422 : UInt32 := gbmFourccCode 'Y' 'U' '1' '6'
def gbmFormatP010 : UInt32 := gbmFourccCode 'P' '0' '1' '0'
def gbmFormatExtUnknown : UInt32 := gbmFourccCode '0' '0' '0' '0'

/-! ## The table between Android and GBM formats

  Searched from the front, like in the source.  A miss is an error number in an unsigned type,
  and so looks like a format. -/

/-- `color_fmt_t`, less the two name strings, which only log messages read. -/
structure ColorFmt where
  androidFormat : UInt32
  gbmFormat : UInt32
  deriving DecidableEq, Repr

/-- `color_format_map[]`. -/
def colorFormatMap : List ColorFmt :=
  [ ⟨halPixelFormatRgba8888, gbmFormatAbgr8888⟩,
    ⟨halPixelFormatRgbx8888, gbmFormatXbgr8888⟩,
    ⟨halPixelFormatBgra8888, gbmFormatArgb8888⟩,
    ⟨halPixelFormatRgb888, gbmFormatBgr888⟩,
    ⟨halPixelFormatRgb565, gbmFormatBgr565⟩,
    ⟨halPixelFormatYcbcr422Sp, gbmFormatYuv422⟩,
    ⟨halPixelFormatYcrcb420Sp, gbmFormatYvu420⟩,
    ⟨halPixelFormatYcbcr422I, gbmFormatVyuy⟩,
    ⟨halPixelFormatYcbcr420888, gbmFormatYuv420⟩,
    ⟨halPixelFormatRgba1010102, gbmFormatAbgr2101010⟩,
    ⟨halPixelFormatY8, gbmFormatR8⟩,
    ⟨halPixelFormatY16, gbmFormatR16⟩,
    -- YV12 is planar, but must be a single buffer so ask for GR88
    ⟨halPixelFormatYv12, gbmFormatGr88⟩,
    ⟨halPixelFormatRgbaFp16, gbmFormatAbgr16161616f⟩,
    ⟨halPixelFormatYcbcrP010, gbmFormatP010⟩,
    ⟨halPixelFormatExtUnknown, gbmFormatExtUnknown⟩ ]

/-- `-EINVAL` as the `uint32_t` that the lookups return when nothing matches. -/
def notFoundFormat : UInt32 := UInt32.ofInt (-eINVAL)

/-- `color_fmt_a2g`. -/
def colorFmtA2g (androidFormat : UInt32) : UInt32 :=
  match colorFormatMap.find? (fun e => e.androidFormat == androidFormat) with
  | some e => e.gbmFormat
  | none => notFoundFormat

/-- Every format code the lookup can return, the sentinel included, is positive: the callers'
    guard `gbm_format <= 0` is never taken. -/
theorem colorFmtA2g_pos (androidFormat : UInt32) : ¬ colorFmtA2g androidFormat ≤ 0 := by
  have hmap : ∀ e ∈ colorFormatMap, ¬ e.gbmFormat ≤ 0 := by decide
  unfold colorFmtA2g
  cases h : colorFormatMap.find? (fun e => e.androidFormat == androidFormat) with
  | none => exact (by decide : ¬ notFoundFormat ≤ 0)
  | some e => exact hmap e (List.mem_of_find?_eq_some h)

/-! ## Pixel sizes

  The sizes in bits, and in bytes; a miss here is the number 255. -/

/-- `color_bpp_t`. -/
structure ColorBpp where
  gbmFormat : UInt32
  bpp : UInt8
  deriving DecidableEq, Repr

/-- `color_bpp_map[]`. -/
def colorBppMap : List ColorBpp :=
  [ ⟨gbmFormatAbgr8888, 32⟩, ⟨gbmFormatXbgr8888, 32⟩, ⟨gbmFormatArgb8888, 32⟩,
    ⟨gbmFormatBgr888, 24⟩, ⟨gbmFormatBgr565, 16⟩, ⟨gbmFormatYuv422, 16⟩,
    ⟨gbmFormatYvu420, 12⟩, ⟨gbmFormatVyuy, 32⟩, ⟨gbmFormatYuv420, 12⟩,
    ⟨gbmFormatAbgr2101010, 32⟩, ⟨gbmFormatR8, 8⟩, ⟨gbmFormatR16, 16⟩, ⟨gbmFormatGr88, 16⟩,
    ⟨gbmFormatAbgr16161616f, 64⟩,
    ⟨gbmFormatRgb565, 16⟩, ⟨gbmFormatNv12, 8⟩, ⟨gbmFormatNv21, 16⟩, ⟨gbmFormatRgbx8888, 32⟩,
    ⟨gbmFormatXrgb8888, 32⟩, ⟨gbmFormatExtUnknown, 0⟩ ]

/-- `color_bytes_per_pixel`: `bpp / 8` of the first entry, `(uint8_t) -1` when there is none. -/
def colorBytesPerPixel (gbmFormat : UInt32) : UInt8 :=
  match colorBppMap.find? (fun e => e.gbmFormat == gbmFormat) with
  | some e => e.bpp / 8
  | none => 255

/-- `gralloc_gbm_calculate_android_pixel_stride`; `none` when it divides by zero. -/
def grallocGbmCalculateAndroidPixelStride (androidFormat gbmStride : UInt32) : Option Int32 :=
  let gbmFormat := colorFmtA2g androidFormat
  if gbmFormat ≤ 0 then some (Int32.ofInt (-eINVAL))
  else if colorBytesPerPixel gbmFormat = 0 then none
  else some (gbmStride / (colorBytesPerPixel gbmFormat).toUInt32).toInt32

/-- It has one exactly if the format has a pixel size. -/
theorem grallocGbmCalculateAndroidPixelStride_eq_none {androidFormat gbmStride : UInt32} :
    grallocGbmCalculateAndroidPixelStride androidFormat gbmStride = none ↔
      colorBytesPerPixel (colorFmtA2g androidFormat) = 0 := by
  unfold grallocGbmCalculateAndroidPixelStride
  dsimp only
  rw [if_neg (colorFmtA2g_pos androidFormat)]
  split
  · rename_i h
    exact ⟨fun _ => h, fun _ => rfl⟩
  · rename_i h
    exact ⟨fun hs => (Option.some_ne_none _ hs).elim, fun hb => absurd hb h⟩

end GrallocGbm
