/-
  What a reader learns of the size and the usage that were requested.

  The size goes into the handle as the allocator has adjusted it and is adjusted once more on
  import; the mapper reports what comes out.  For a cursor that is the size of the cursor block,
  which the second adjustment leaves alone, and for everything else but YV12 the size requested
  (`delivered_geometry`).

  The handle has 32 bits for the usage, so the upper half is gone before the handle is made.  The
  lower half comes back zero-extended from the DMA-BUF backend; the GBM backend takes it through an
  `int`, which is the same as long as bit 31 is clear (`delivered_usage`).

  A request and a read are connected by a `Delivery`: the allocator in one process, a handle of its
  result, the import of it in another, and any calls there that do not free it.

      request   ->  newArgs  ->  handle  ->  importArgs  ->  bo
        32            64           64            64           64      (a cursor)
        w             w            w             w            w       (any other)

  What is between the first and the last column is `newArgs_size` and `Delivery.importArgs_size`;
  that a read gives the last column is `Delivery.fields`.
-/
import GrallocGbm.Delivery

namespace GrallocGbm

/-! ## Words and formats

  Conversions between the types that the usage and the format have on their way. -/

/-- A usage as the functions of the library see it: its low 32 bits. -/
theorem usageBits_eq (usage : Int64) : usageBits usage = usage.toUInt64.toUInt32 := by
  apply UInt32.toBitVec_inj.mp
  exact BitVec.signExtend_eq_setWidth_of_le usage.toBitVec (by omega)

/-- They are not changed by being cut to 32 bits before. -/
theorem usageBits_desc (usage : Int64) :
    usageBits usage.toUInt64.toUInt32.toUInt64.toInt64 = usageBits usage := by
  rw [usageBits_eq, usageBits_eq, UInt64.toUInt64_toInt64, UInt32.toUInt32_toUInt64]

/-- Sign and zero extension of a word agree while its top bit is clear. -/
theorem toInt64_toInt32 {u : UInt32} (hu : u.toNat < 2 ^ 31) :
    u.toInt32.toInt64 = u.toUInt64.toInt64 := by
  apply Int64.toBitVec_inj.mp
  have hmsb : u.toBitVec.msb = false := by
    rw [BitVec.msb_eq_decide, decide_eq_false_iff_not]
    exact not_le.mpr hu
  show u.toBitVec.signExtend 64 = u.toBitVec.setWidth 64
  exact BitVec.signExtend_eq_setWidth_of_msb_false hmsb

/-- The one format without a pixel size. -/
theorem colorBytesPerPixel_eq_zero {androidFormat : UInt32} :
    colorBytesPerPixel (colorFmtA2g androidFormat) = 0 ↔ androidFormat = halPixelFormatExtUnknown := by
  have hmap : ∀ e ∈ colorFormatMap,
      (colorBytesPerPixel e.gbmFormat = 0 ↔ e.androidFormat = halPixelFormatExtUnknown) := by
    decide
  unfold colorFmtA2g
  cases hfind : colorFormatMap.find? (fun e => e.androidFormat == androidFormat) with
  | some e =>
    have hkey : e.androidFormat = androidFormat := by simpa using List.find?_some hfind
    rw [← hkey]
    exact hmap e (List.mem_of_find?_eq_some hfind)
  | none =>
    apply iff_of_false
    · decide
    · rintro rfl
      cases hfind

/-! ## Size -/

/-- The flags of the objects made and imported for a request. -/
def requestFlags (cfg : BuildConfig) (d : BufferDescriptorInfo) : UInt32 :=
  grallocGbmCalculateGbmFlags cfg (usageBits d.usage) (colorFmtA2g d.format.toUInt32)

/-- What is reported for a requested extent: for a cursor the extent after the cursor block, else the
    extent itself. -/
def reportedExtent (cfg : BuildConfig) (d : BufferDescriptorInfo) (x : Int32) : Int32 :=
  if d.format = pixelFormatBlob ∧ d.height = 1 then x
  else if requestFlags cfg d &&& gbmBoUseCursor ≠ 0 then (cursorExtent cfg x.toUInt32).toInt32
  else x

/-- An extent within the limits of the library. -/
def ExtentInRange (x : Int32) : Prop := 1 ≤ x.toInt ∧ x.toInt ≤ 16384

/-- Adjusting for a cursor in the allocator and again in the mapper is adjusting in the mapper. -/
theorem cursorExtent_twice (cfg : BuildConfig) {x : Int32} (hx : ExtentInRange x) :
    cursorExtent cfg (cursorExtent cfg x).toUInt32 = cursorExtent cfg x.toUInt32 := by
  obtain ⟨h1, h2⟩ := hx
  have hnat := toNat_toUInt32 (x := x) (by omega)
  have hint := toInt_cursorExtent cfg (x := x) (by omega)
  have hbound := (cursorNat_bounds cfg x.toInt.toNat).2.2
  have hnat' := toNat_toUInt32 (x := cursorExtent cfg x) (by omega)
  have hx' : x.toUInt32.toNat = x.toInt.toNat := by omega
  have hcx : (cursorExtent cfg x).toUInt32.toNat = cursorNat cfg x.toInt.toNat := by omega
  apply UInt32.toNat_inj.mp
  rw [toNat_cursorExtent cfg (by omega), toNat_cursorExtent cfg (by omega), hcx, hx', cursorNat_idem]

section

variable {cfg : BuildConfig} {d : BufferDescriptorInfo}

/-- The size passed to `gbm_bo_import`. -/
theorem importArgs_size {g : GrallocHandle} (hformat : g.format = d.format.toUInt32)
    (husage : g.usage = usageBits d.usage) (hyv12 : d.format.toUInt32 ≠ halPixelFormatYv12) :
    ((importArgs cfg g).1.width, (importArgs cfg g).1.height)
      = if requestFlags cfg d &&& gbmBoUseCursor ≠ 0 then
          (cursorExtent cfg g.width, cursorExtent cfg g.height)
        else (g.width, g.height) := by
  have hsize : ((importArgs cfg g).1.width, (importArgs cfg g).1.height)
      = importSize cfg g (requestFlags cfg d) := by
    simp only [importArgs, requestFlags, hformat, husage]
  rw [hsize, importSize, hformat, if_neg hyv12]

/-- The size the GBM backend writes into the handle. -/
theorem newArgs_size (cfg : BuildConfig) {desc : AllocatorDesc}
    (hdesc : generateGrallocGenericDesc d = some desc) (hyv12 : d.format.toUInt32 ≠ halPixelFormatYv12) :
    ((newArgs cfg desc).width, (newArgs cfg desc).height)
      = if requestFlags cfg d &&& gbmBoUseCursor ≠ 0 then
          ((cursorExtent cfg d.width).toUInt32, (cursorExtent cfg d.height).toUInt32)
        else (d.width.toUInt32, d.height.toUInt32) := by
  obtain ⟨-, -, hw, hh, hformat, husage⟩ :=
    AllocatorBackendGrallocGbm.generateGrallocGenericDesc_eq hdesc
  have hsize : ((newArgs cfg desc).width, (newArgs cfg desc).height)
      = Prod.map Int32.toUInt32 Int32.toUInt32 (newSize cfg desc (requestFlags cfg d)) := by
    simp only [newArgs, requestFlags, hformat, husage, usageBits_desc]
    rfl
  simp only [hsize, newSize, hformat, if_neg hyv12, hw, hh]
  split <;> rfl

/-- The format and the usage of the request are in the handle. -/
theorem Delivery.fields (x : Delivery cfg d) :
    (grallocHandle x.handle).format = d.format.toUInt32 ∧
      (grallocHandle x.handle).usage = usageBits d.usage := by
  obtain ⟨backend, -, hb, -⟩ := x.allocated
  cases backend with
  | allocatorGrallocGbm =>
    obtain ⟨-, -, desc, layout, last, hmade, hfields⟩ := x.fields_gbm hb
    obtain ⟨-, -, -, -, hformat, husage⟩ :=
      AllocatorBackendGrallocGbm.generateGrallocGenericDesc_eq hmade.desc_eq
    rw [hfields, hformat, husage, usageBits_desc]
    exact ⟨rfl, rfl⟩
  | allocatorGrallocDmabuf =>
    obtain ⟨-, -, modifier, hfields⟩ := x.fields_dmabuf hb
    rw [hfields]
    exact ⟨rfl, rfl⟩

/-- The size of the imported object, whichever backend has allocated the buffer. -/
theorem Delivery.importArgs_size (x : Delivery cfg d)
    (hsize : x.backend = some .allocatorGrallocGbm → ExtentInRange d.width ∧ ExtentInRange d.height)
    (hyv12 : d.format.toUInt32 ≠ halPixelFormatYv12)
    (hblob : ¬ (d.format = pixelFormatBlob ∧ d.height = 1)) :
    let args := (importArgs cfg (grallocHandle x.handle)).1
    args.width.toInt32 = reportedExtent cfg d d.width ∧
      args.height.toInt32 = reportedExtent cfg d d.height := by
  intro args
  obtain ⟨hformat, husage⟩ := x.fields
  have hargs : (args.width, args.height) = _ := GrallocGbm.importArgs_size hformat husage hyv12
  simp only [reportedExtent, if_neg hblob]
  obtain ⟨backend, -, hb, -⟩ := x.allocated
  cases backend with
  | allocatorGrallocDmabuf =>
    obtain ⟨-, -, modifier, hfields⟩ := x.fields_dmabuf hb
    rw [hfields] at hargs
    split <;> rename_i hcursor
    · rw [if_pos hcursor] at hargs
      obtain ⟨hw, hh⟩ := Prod.mk.inj hargs
      rw [hw, hh]
      exact ⟨rfl, rfl⟩
    · rw [if_neg hcursor] at hargs
      obtain ⟨hw, hh⟩ := Prod.mk.inj hargs
      rw [hw, hh]
      exact ⟨rfl, rfl⟩
  | allocatorGrallocGbm =>
    obtain ⟨-, -, desc, layout, last, hmade, hfields⟩ := x.fields_gbm hb
    have hnew := newArgs_size cfg hmade.desc_eq hyv12
    rw [hfields] at hargs
    split <;> rename_i hcursor
    · rw [if_pos hcursor] at hargs hnew
      obtain ⟨hw, hh⟩ := Prod.mk.inj hargs
      obtain ⟨hw', hh'⟩ := Prod.mk.inj hnew
      rw [hw, hh, hw', hh', cursorExtent_twice cfg (hsize hb).1, cursorExtent_twice cfg (hsize hb).2]
      exact ⟨rfl, rfl⟩
    · rw [if_neg hcursor] at hargs hnew
      obtain ⟨hw, hh⟩ := Prod.mk.inj hargs
      obtain ⟨hw', hh'⟩ := Prod.mk.inj hnew
      rw [hw, hh, hw', hh']
      exact ⟨rfl, rfl⟩

/-- The GBM backend has an answer for every format with a pixel size. -/
theorem Delivery.reports_of_pixelSize (x : Delivery cfg d)
    (hblob : ¬ (d.format = pixelFormatBlob ∧ d.height = 1))
    (hunknown : d.format.toUInt32 ≠ halPixelFormatExtUnknown) :
    let g := grallocHandle x.handle
    ∃ stride, x.Reports (importArgs cfg g).1.width.toInt32 (importArgs cfg g).1.height.toInt32
      (usageBits d.usage).toInt32.toInt64 stride := by
  intro g
  obtain ⟨layout, -, hreports⟩ := x.reports_gbm (x.routed.trans (if_neg hblob))
  rw [x.fields.1, x.fields.2] at hreports
  cases hstride : grallocGbmCalculateAndroidPixelStride d.format.toUInt32 layout.stride with
  | none =>
    have h0 := grallocGbmCalculateAndroidPixelStride_eq_none.mp hstride
    exact absurd (colorBytesPerPixel_eq_zero.mp h0) hunknown
  | some stride =>
    rw [hstride] at hreports
    exact ⟨stride, hreports⟩

/-- **The size a reader learns.**  Of every buffer that `allocate2` hands out, once imported, the
    mapper reports the size requested, or for a cursor the size of the cursor block.  (For YV12 it
    reports the size of the GR88 object, adjusted twice; for `EXT_UNKNOWN` it does not return.) -/
theorem delivered_geometry (x : Delivery cfg d)
    (hsize : x.backend = some .allocatorGrallocGbm → ExtentInRange d.width ∧ ExtentInRange d.height)
    (hyv12 : d.format.toUInt32 ≠ halPixelFormatYv12)
    (hunknown : d.format.toUInt32 ≠ halPixelFormatExtUnknown) :
    let w := reportedExtent cfg d d.width
    let h := reportedExtent cfg d d.height
    x.read .width = some (.int32 w) ∧ x.read .height = some (.int32 h) ∧
      x.read .crop = some (.crop [⟨0, 0, w, h⟩]) := by
  intro w h
  by_cases hblob : d.format = pixelFormatBlob ∧ d.height = 1
  · have hreports := x.reports_dmabuf (x.routed.trans (if_pos hblob))
    have hw : w = d.width := if_pos hblob
    have hh : h = d.height := if_pos hblob
    obtain ⟨backend, -, hb, -⟩ := x.allocated
    cases backend with
    | allocatorGrallocGbm => exact absurd hblob (x.fields_gbm hb).1
    | allocatorGrallocDmabuf =>
      obtain ⟨-, -, modifier, hfields⟩ := x.fields_dmabuf hb
      rw [hfields] at hreports
      rw [hw, hh]
      exact ⟨hreports.width, hreports.height, hreports.crop⟩
  · obtain ⟨stride, hreports⟩ := x.reports_of_pixelSize hblob hunknown
    obtain ⟨hw, hh⟩ := x.importArgs_size hsize hyv12 hblob
    rw [hw, hh] at hreports
    exact ⟨hreports.width, hreports.height, hreports.crop⟩

/-- A cursor of 32x32. -/
def cursorInfo : BufferDescriptorInfo := ⟨32, 32, 1, 1, 0x8033, 0, []⟩

/-- It is allocated, imported and read in the plain environment. -/
def cursorDelivery : Delivery .androidBp cursorInfo :=
  .direct .androidBp .plain [] cursorInfo rfl rfl (by decide) rfl

/-- The theorem at this cursor. -/
theorem cursor_delivered_geometry :
    let w := reportedExtent .androidBp cursorInfo cursorInfo.width
    let h := reportedExtent .androidBp cursorInfo cursorInfo.height
    cursorDelivery.read .width = some (.int32 w) ∧ cursorDelivery.read .height = some (.int32 h) ∧
      cursorDelivery.read .crop = some (.crop [⟨0, 0, w, h⟩]) :=
  delivered_geometry cursorDelivery (fun _ => ⟨⟨by decide, by decide⟩, ⟨by decide, by decide⟩⟩)
    (by decide) (by decide)

/-- It is reported as one of 64x64. -/
theorem cursor_grows :
    cursorInfo.width = 32 ∧ cursorInfo.height = 32 ∧
    cursorDelivery.read .width = some (.int32 64) ∧ cursorDelivery.read .height = some (.int32 64) ∧
      cursorDelivery.read .crop = some (.crop [⟨0, 0, 64, 64⟩]) :=
  ⟨rfl, rfl, by decide, by decide, by decide⟩

/-! ## Usage -/

/-- **The usage a reader learns** is the low half of the one requested, zero-extended: on the DMA-BUF
    backend always, on the GBM backend if bit 31 is clear. -/
theorem delivered_usage (x : Delivery cfg d)
    (hclear : ¬ (d.format = pixelFormatBlob ∧ d.height = 1) →
      d.usage.toUInt64.toUInt32.toNat < 2 ^ 31)
    (hunknown : d.format.toUInt32 ≠ halPixelFormatExtUnknown) :
    x.read .usage = some (.bufferUsage d.usage.toUInt64.toUInt32.toUInt64.toInt64) := by
  rw [← usageBits_eq] at hclear ⊢
  by_cases hblob : d.format = pixelFormatBlob ∧ d.height = 1
  · have hreports := x.reports_dmabuf (x.routed.trans (if_pos hblob))
    simp only [x.fields.2] at hreports
    exact hreports.usage
  · obtain ⟨stride, hreports⟩ := x.reports_of_pixelSize hblob hunknown
    rw [toInt64_toInt32 (hclear hblob)] at hreports
    exact hreports.usage

end

/-- A texture with a vendor's bit 40. -/
def vendorInfo : BufferDescriptorInfo := ⟨64, 64, 1, 1, 0x10000000133, 0, []⟩

/-- It is delivered in the plain environment. -/
def vendorDelivery : Delivery .androidBp vendorInfo :=
  .direct .androidBp .plain [] vendorInfo rfl rfl (by decide) rfl

/-- The theorem at this buffer. -/
theorem vendor_delivered_usage : vendorDelivery.read .usage
    = some (.bufferUsage vendorInfo.usage.toUInt64.toUInt32.toUInt64.toInt64) :=
  delivered_usage vendorDelivery (fun _ => by decide) (by decide)

/-- The bit is gone. -/
theorem vendor_bit_lost :
    vendorInfo.usage = 0x10000000133 ∧ vendorDelivery.read .usage = some (.bufferUsage 0x133) :=
  ⟨rfl, by decide⟩

end GrallocGbm
