/-
  Plane layouts (`mapper_stablec/MapperPlaneLayouts.hpp`).

  The table from GBM formats to the planes of a buffer, as the mapper reports them before it fills
  in the sizes.  A plane is given by its components, its sample increment and its subsampling; a
  component by its type, and its offset and size in bits.

  The rows stand in the order of the source.  The formats of one plane take the sample increment
  from `color_bpp`; those of two or three planes give it, and the planes after the first are
  subsampled in one direction or in both.

  The comment at the head of the source's table says that all formats of `color_format_map` should
  be in it, which they are not: the code of YCBCR_P010 and that of EXT_UNKNOWN have no row here, and
  for these `getPlaneLayouts` returns its error.

  Nothing is filled in at this stage: the offset, the strides and the extents of every row are zero,
  and get their values in `gbmMetadataValue`.
-/
import GrallocGbm.Format

namespace GrallocGbm

/-- `PlaneLayoutComponentType`. -/
inductive PlaneLayoutComponentType where
  | y
  | cb
  | cr
  | r
  | g
  | b
  | a
  deriving DecidableEq, Repr

/-- `PlaneLayoutComponent`. -/
structure PlaneLayoutComponent where
  type : PlaneLayoutComponentType
  offsetInBits : Int
  sizeInBits : Int
  deriving DecidableEq, Repr

/-- `PlaneLayout`; its `int64_t` fields are integers. -/
structure PlaneLayout where
  components : List PlaneLayoutComponent
  offsetInBytes : Int
  sampleIncrementInBits : Int
  strideInBytes : Int
  widthInSamples : Int
  heightInSamples : Int
  totalSizeInBytes : Int
  horizontalSubsampling : Int
  verticalSubsampling : Int
  deriving DecidableEq, Repr

/-- `color_bpp`: the entry's bits per pixel, `(uint8_t) -1` when there is none. -/
def colorBpp (gbmFormat : UInt32) : UInt8 :=
  match colorBppMap.find? (fun e => e.gbmFormat == gbmFormat) with
  | some e => e.bpp
  | none => 255

/-- A row's plane; the fields it does not name are zero. -/
def plane (components : List PlaneLayoutComponent)
    (sampleIncrementInBits horizontalSubsampling verticalSubsampling : Int) : PlaneLayout :=
  ⟨components, 0, sampleIncrementInBits, 0, 0, 0, 0, horizontalSubsampling, verticalSubsampling⟩

/-- `GetPlaneLayoutsMap`. -/
def planeLayoutsMap : List (UInt32 × List PlaneLayout) :=
  let bpp (gbmFormat : UInt32) : Int := (colorBpp gbmFormat).toNat
  [ (gbmFormatAbgr8888,
      [plane [⟨.r, 0, 8⟩, ⟨.g, 8, 8⟩, ⟨.b, 16, 8⟩, ⟨.a, 24, 8⟩] (bpp gbmFormatAbgr8888) 1 1]),
    (gbmFormatXbgr8888,
      [plane [⟨.r, 0, 8⟩, ⟨.g, 8, 8⟩, ⟨.b, 16, 8⟩] (bpp gbmFormatXbgr8888) 1 1]),
    (gbmFormatArgb8888,
      [plane [⟨.b, 0, 8⟩, ⟨.g, 8, 8⟩, ⟨.r, 16, 8⟩, ⟨.a, 24, 8⟩] (bpp gbmFormatArgb8888) 1 1]),
    (gbmFormatBgr888,
      [plane [⟨.r, 0, 8⟩, ⟨.g, 8, 8⟩, ⟨.b, 16, 8⟩] (bpp gbmFormatBgr888) 1 1]),
    (gbmFormatBgr565,
      [plane [⟨.r, 0, 5⟩, ⟨.g, 5, 6⟩, ⟨.b, 11, 5⟩] (bpp gbmFormatBgr565) 1 1]),
    (gbmFormatYuv422,
      [plane [⟨.y, 0, 8⟩] 8 1 1,
       plane [⟨.cb, 0, 8⟩] 8 2 1,
       plane [⟨.cr, 0, 8⟩] 8 2 1]),
    (gbmFormatYvu420,
      [plane [⟨.y, 0, 8⟩] 8 1 1,
       plane [⟨.cr, 0, 8⟩] 8 2 2,
       plane [⟨.cb, 0, 8⟩] 8 2 2]),
    (gbmFormatVyuy,
      [plane [⟨.cr, 0, 8⟩, ⟨.y, 8, 8⟩, ⟨.cb, 16, 8⟩, ⟨.y, 24, 8⟩] (bpp gbmFormatVyuy) 1 1]),
    (gbmFormatYuv420,
      [plane [⟨.y, 0, 8⟩] 8 1 1,
       plane [⟨.cb, 0, 8⟩] 8 2 2,
       plane [⟨.cr, 0, 8⟩] 8 2 2]),
    (gbmFormatAbgr2101010,
      [plane [⟨.r, 0, 10⟩, ⟨.g, 10, 10⟩, ⟨.b, 20, 10⟩, ⟨.a, 30, 2⟩] (bpp gbmFormatAbgr2101010) 1 1]),
    (gbmFormatR8,
      [plane [⟨.r, 0, 8⟩] (bpp gbmFormatR8) 1 1]),
    (gbmFormatR16,
      [plane [⟨.r, 0, 16⟩] (bpp gbmFormatR16) 1 1]),
    (gbmFormatGr88,
      [plane [⟨.r, 0, 8⟩, ⟨.g, 8, 8⟩] (bpp gbmFormatGr88) 1 1]),
    (gbmFormatAbgr16161616f,
      [plane [⟨.r, 0, 16⟩, ⟨.g, 16, 16⟩, ⟨.b, 32, 16⟩, ⟨.a, 48, 16⟩] (bpp gbmFormatAbgr16161616f) 1 1]),
    (gbmFormatRgb565,
      [plane [⟨.b, 0, 5⟩, ⟨.g, 5, 6⟩, ⟨.r, 11, 5⟩] (bpp gbmFormatRgb565) 1 1]),
    (gbmFormatNv12,
      [plane [⟨.y, 0, 8⟩] 8 1 1,
       plane [⟨.cb, 0, 8⟩, ⟨.cr, 8, 8⟩] 16 2 2]),
    (gbmFormatNv21,
      [plane [⟨.y, 0, 8⟩] 8 1 1,
       plane [⟨.cr, 0, 8⟩, ⟨.cb, 8, 8⟩] 16 2 2]),
    (gbmFormatRgbx8888,
      [plane [⟨.b, 16, 8⟩, ⟨.g, 8, 8⟩, ⟨.r, 0, 8⟩] (bpp gbmFormatRgbx8888) 1 1]),
    (gbmFormatXrgb8888,
      [plane [⟨.b, 16, 8⟩, ⟨.g, 8, 8⟩, ⟨.r, 0, 8⟩] (bpp gbmFormatXrgb8888) 1 1]) ]

/-- `getPlaneLayouts`; `none` is its error. -/
def getPlaneLayouts (gbmFormat : UInt32) : Option (List PlaneLayout) :=
  (planeLayoutsMap.find? (fun e => e.1 == gbmFormat)).map (fun e => e.2)

end GrallocGbm
