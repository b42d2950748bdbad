/-
  Usage bits, GBM flags and the acceptance test for descriptors
  (`common/gralloc_gbm.c`, `include/gralloc_generic.h`, `include/gralloc_gbm.h`).

  An Android buffer declares what it is used for in `GRALLOC_USAGE_*` bits;
  `gralloc_gbm_calculate_gbm_flags` turns them into the `GBM_BO_USE_*` flags of the buffer object.
  Both the creator and the importer of a buffer compute the flags, each from its own copy of the
  usage, so they agree as soon as the copies do.

  1. **Flags** — a row of `usageRules` is one `if` of the source: a mask of usage bits, and the
     flags it adds.  The rows depend on the symbols the library is built with (`BuildConfig`):
     software rendering makes a CPU write ask for a dumb buffer, and from API level 35 on there are
     cursors. With `GRALLOC_GBM_NO_CURSOR_RENDERING` a cursor that is rendered to loses the cursor
     flag.

  2. **Acceptance** — `gralloc_gbm_is_allocator_desc_supported` answers before anything is
     allocated: the driver is there, the extent is at most 16384 (from below nothing is tested), the
     usage is not zero, a dumb buffer has one of the formats that the kernel gives dumb buffers, a
     cursor is not rendered to unless the flag is dropped, and libgbm supports the format with the
     flags. What it accepts, over all descriptors and builds, is `Acceptance`; how the answer moves
     with the usage, `AcceptanceOrder`.

  Bit sets are `UInt32` throughout, whether the source declares them `int`, `uint_t` or `uint32_t`:
  only `&`, `|`, `~` and comparison with zero are ever applied to them.  Where a 64-bit usage is
  passed for a 32-bit parameter it is cut first (`usageBits`), as C does it.

  The `GRALLOC_USAGE_*` values are those of the platform's `hardware/gralloc.h`, the `GBM_BO_USE_*`
  values those of libgbm's `gbm.h`, `GBM_BO_USE_PROTECTED` included.
-/
import GrallocGbm.Format

namespace GrallocGbm

/-! ## Usage bits and buffer-object flags

  The bits that gralloc's usage word has, and the flags of libgbm that they are turned into. -/

/-- The usage bits of the platform's `hardware/gralloc.h` (`GRALLOC_USAGE_*`); the two masks cover
    both values of each access. -/
def grallocUsageSwReadRarely : UInt32 := 0x2
def grallocUsageSwReadOften : UInt32 := 0x3
def grallocUsageSwReadMask : UInt32 := 0xF
def grallocUsageSwWriteRarely : UInt32 := 0x20
def grallocUsageSwWriteOften : UInt32 := 0x30
def grallocUsageSwWriteMask : UInt32 := 0xF0
def grallocUsageHwTexture : UInt32 := 0x100
def grallocUsageHwRender : UInt32 := 0x200
def grallocUsageHw2d : UInt32 := 0x400
def grallocUsageHwComposer : UInt32 := 0x800
def grallocUsageHwFb : UInt32 := 0x1000
def grallocUsageExternalDisp : UInt32 := 0x2000
def grallocUsageProtected : UInt32 := 0x4000
def grallocUsageCursor : UInt32 := 0x8000

/-- The flags of libgbm's `gbm.h` (`GBM_BO_USE_*`). -/
def gbmBoUseNone : UInt32 := 0
def gbmBoUseScanout : UInt32 := 1
def gbmBoUseCursor : UInt32 := 2
def gbmBoUseRendering : UInt32 := 4
def gbmBoUseWrite : UInt32 := 8
def gbmBoUseLinear : UInt32 := 16
def gbmBoUseProtected : UInt32 := 32

/-- The preprocessor symbols the library is built with. -/
structure BuildConfig where
  /-- `GRALLOC_GBM_USE_SW_RENDER` -/
  useSwRender : Bool
  /-- `GRALLOC_GBM_NO_CURSOR_RENDERING` -/
  noCursorRendering : Bool
  /-- `GRALLOC_GBM_NO_CURSOR_ALIGNING` -/
  noCursorAligning : Bool
  /-- `ANDROID_API_LEVEL` -/
  androidApiLevel : Nat
  deriving DecidableEq, Repr

/-- The configuration of `Android.bp` on Android 15. -/
def BuildConfig.androidBp : BuildConfig := ⟨false, true, false, 35⟩

/-! ## From usage to flags

  The function is a sequence of `if`s, each of which adds flags for some bits; they are kept as
  a table, in their order. -/

/-- The `if (usage & mask) flags |= bits;` statements of `gralloc_gbm_calculate_gbm_flags`,
    one row each, in order. -/
def usageRules (cfg : BuildConfig) : List (UInt32 × UInt32) :=
  let swWrite := gbmBoUseLinear ||| (if cfg.useSwRender then gbmBoUseWrite else gbmBoUseNone)
  [ (grallocUsageSwReadOften, gbmBoUseLinear),
    (grallocUsageSwReadRarely, gbmBoUseLinear),
    (grallocUsageSwWriteOften, swWrite),
    (grallocUsageSwWriteRarely, swWrite),
    (grallocUsageHwTexture, gbmBoUseRendering),
    (grallocUsageHwRender, gbmBoUseRendering),
    (grallocUsageHw2d, gbmBoUseRendering),
    (grallocUsageHwComposer, gbmBoUseScanout ||| gbmBoUseRendering),
    (grallocUsageHwFb, gbmBoUseScanout),
    (grallocUsageExternalDisp, gbmBoUseNone),
    (grallocUsageProtected, gbmBoUseProtected),
    (grallocUsageCursor, if 35 ≤ cfg.androidApiLevel then gbmBoUseCursor else gbmBoUseNone) ]

/-- The flags collected by the rules, before the cursor corrections. -/
def collectFlags (cfg : BuildConfig) (usage : UInt32) : UInt32 :=
  (usageRules cfg).foldl
    (fun flags rule => if usage &&& rule.1 ≠ 0 then flags ||| rule.2 else flags) gbmBoUseNone

/-- The test both functions below make of a dumb (`WRITE`) buffer: a cursor must be ARGB8888, a
    scanout buffer XRGB8888 or XBGR8888. -/
def dumbFormatRefused (flags gbmFormat : UInt32) : Bool :=
  (flags &&& gbmBoUseCursor != 0 && gbmFormat != gbmFormatArgb8888) ||
  (flags &&& gbmBoUseScanout != 0 &&
    (gbmFormat != gbmFormatXrgb8888 && gbmFormat != gbmFormatXbgr8888))

/-- `gralloc_gbm_calculate_gbm_flags`. -/
def grallocGbmCalculateGbmFlags (cfg : BuildConfig) (usage gbmFormat : UInt32) : UInt32 :=
  let flags := collectFlags cfg usage
  if flags &&& gbmBoUseWrite ≠ 0 ∧ dumbFormatRefused flags gbmFormat then flags
  else if flags &&& gbmBoUseCursor ≠ 0 ∧ flags &&& gbmBoUseRendering ≠ 0 ∧ cfg.noCursorRendering then
    flags &&& ~~~gbmBoUseCursor
  else flags

/-! ## Descriptors and their acceptance

  The descriptor as the library gets it, and the test that comes before every allocation. -/

/-- `allocator_desc_t`, less the name, which only log messages read. -/
structure AllocatorDesc where
  width : Int32
  height : Int32
  layerCount : Int32
  format : Int32
  usage : Int64
  reservedSize : Int64
  deriving DecidableEq, Repr

/-- An `int64_t` usage passed where an `int`, `int32_t` or `uint32_t` is expected. -/
def usageBits (usage : Int64) : UInt32 := usage.toInt32.toUInt32

/-- `GRALLOC_GBM_WIDTH_MAX` and `GRALLOC_GBM_HEIGHT_MAX`: the largest extent that is accepted. -/
def grallocGbmWidthMax : Int32 := 16384
def grallocGbmHeightMax : Int32 := 16384

/-- `gralloc_gbm_is_allocator_desc_supported`, on a driver that is `ready` or not and a device
    that answers `isFormatSupported` to `gbm_device_is_format_supported`. -/
def grallocGbmIsAllocatorDescSupported (cfg : BuildConfig)
    (isFormatSupported : UInt32 → UInt32 → Bool) (ready : Bool) (desc : AllocatorDesc) : Bool :=
  let gbmFormat := colorFmtA2g desc.format.toUInt32
  let flags := grallocGbmCalculateGbmFlags cfg (usageBits desc.usage) gbmFormat
  if !ready then false
  else if gbmFormat ≤ 0 then false
  else if desc.width > grallocGbmWidthMax ∨ desc.height > grallocGbmHeightMax then false
  else if desc.usage = 0 then false
  else if flags &&& gbmBoUseWrite ≠ 0 ∧ dumbFormatRefused flags gbmFormat then false
  else if flags &&& gbmBoUseCursor ≠ 0 ∧ flags &&& gbmBoUseRendering ≠ 0 ∧ !cfg.noCursorRendering
    then false
  else isFormatSupported gbmFormat flags

/-- Nothing is supported before the driver is ready. -/
theorem grallocGbmIsAllocatorDescSupported_ready {cfg : BuildConfig}
    {isFormatSupported : UInt32 → UInt32 → Bool} {ready : Bool} {desc : AllocatorDesc}
    (h : grallocGbmIsAllocatorDescSupported cfg isFormatSupported ready desc = true) :
    ready = true := by
  cases ready with
  | true => rfl
  | false => simp [grallocGbmIsAllocatorDescSupported] at h

/-- The bound on the height, which the routing of a buffer in the mapper relies on. -/
theorem grallocGbmIsAllocatorDescSupported_height {cfg : BuildConfig}
    {isFormatSupported : UInt32 → UInt32 → Bool} {ready : Bool} {desc : AllocatorDesc}
    (h : grallocGbmIsAllocatorDescSupported cfg isFormatSupported ready desc = true) :
    desc.height ≤ grallocGbmHeightMax := by
  by_cases hle : desc.height ≤ grallocGbmHeightMax
  · exact hle
  · have hsize : desc.width > grallocGbmWidthMax ∨ desc.height > grallocGbmHeightMax :=
      .inr (Int32.not_le.mp hle)
    simp [grallocGbmIsAllocatorDescSupported, hsize] at h

end GrallocGbm
