/-
  Looking a format up: what the callers of the two tables do with a format that is not there.

  1. `color_fmt_a2g` answers -EINVAL as an unsigned number, and each of its four callers asks
     whether that is at most zero.  So the sentinel goes on as a format code: to the device, which
     may even accept it, to `gbm_bo_create` and `gbm_bo_import`, and to the table of pixel sizes,
     where the next sentinel makes it a format of 255 bytes a pixel (`unlisted_iff`).
  2. Of the formats that are listed, P010 has no entry in the table of pixel sizes and is divided by
     255 too, and `EXT_UNKNOWN` has one of zero bits.  The quotient is returned as an `int32_t`,
     which matters where a pixel takes a single byte (`pixelStrideExact_iff`).

  The four callers are asked what they would have to do with such a format, each in its own terms:
  the acceptance test answers no, a creation and an import fail with -EINVAL before gbm is asked,
  and a pixel stride is an error.  A creation does fail with -EINVAL where there is no memory for
  the handle, whatever the format; `newRefuses_iff` keeps that apart.

  For the pixel strides, `bytesOf` is the table as it is meant, with `none` where it has no entry,
  and `colorBytesPerPixel_eq` says what the source makes of that.  A quotient is exact if there is
  an entry to divide by and the result fits (`pixelStrideExact_iff_bytesOf`), and which formats that
  excludes is read off the tables (`bytesOf_listed`).
-/
import GrallocGbm.Acceptance
import GrallocGbm.PlaneStrides

namespace GrallocGbm

/-! ## Listed formats

  What the lookups give for a format that is in the table, and for one that is not. -/

/-- Is the Android format in `color_format_map`? -/
def Listed (format : UInt32) : Prop := ∃ e ∈ colorFormatMap, e.androidFormat = format

/-- A format that is not listed gets the sentinel, -/
theorem colorFmtA2g_of_not_listed {format : UInt32} (h : ¬ Listed format) :
    colorFmtA2g format = notFoundFormat := by
  have hnone : colorFormatMap.find? (fun e => e.androidFormat == format) = none := by
    rw [List.find?_eq_none]
    intro e he hkey
    exact h ⟨e, he, by simpa using hkey⟩
  rw [colorFmtA2g, hnone]

/-- and that the sentinel of the other table. -/
theorem colorBytesPerPixel_notFound : colorBytesPerPixel notFoundFormat = 255 := by decide

/-! ## Unlisted formats

  A format that is not listed should be refused by every function that looks it up.  Each has a
  test for it that cannot fire. -/

section

variable {cfg : BuildConfig} {format : UInt32}

/-- The error number of a creation that fails, for want of a handle, before gbm is asked. -/
theorem grallocGbmAndroidBufferNew_noHandle {env : Env} {desc : AllocatorDesc} {p : Proc}
    (hready : isGrallocGbmReady p = true) (halloc : env.alloc p.calls.length = false) :
    grallocGbmAndroidBufferNew cfg env desc p
      = (.err (-eINVAL), { p with next := p.next + 1, calls := .alloc false :: p.calls }) := by
  have hformat : ¬ (newArgs cfg desc).format ≤ 0 := colorFmtA2g_pos _
  unfold grallocGbmAndroidBufferNew
  dsimp only
  rw [hready, grallocHandleCreate_eq, halloc, if_neg (by simp), if_neg hformat]
  rfl

/-- `gralloc_gbm_android_buffer_new` refuses the descriptor: -EINVAL, and gbm is not asked. -/
def NewRefuses (cfg : BuildConfig) (env : Env) (desc : AllocatorDesc) (p : Proc) : Prop :=
  (grallocGbmAndroidBufferNew cfg env desc p).1 = .err (-eINVAL) ∧
  boCreateCalls (grallocGbmAndroidBufferNew cfg env desc p).2.calls = boCreateCalls p.calls

/-- `gralloc_gbm_android_buffer_import` refuses the handle. -/
def ImportRefuses (cfg : BuildConfig) (env : Env) (handle : NativeHandle) (p : Proc) : Prop :=
  (grallocGbmAndroidBufferImport cfg env handle p).1 = -eINVAL ∧
  boImportCalls (grallocGbmAndroidBufferImport cfg env handle p).2.calls = boImportCalls p.calls

/-- Whatever the format, the creation refuses a descriptor only for want of memory. -/
theorem newRefuses_iff {env : Env} {desc : AllocatorDesc} {p : Proc} :
    NewRefuses cfg env desc p ↔ isGrallocGbmReady p = true ∧ env.alloc p.calls.length = false := by
  constructor
  · rintro ⟨hrc, hcalls⟩
    rcases grallocGbmAndroidBufferNew_cases cfg env desc p with ⟨rc, hready, hr⟩ |
      ⟨rc, hready, halloc, hr⟩ | ⟨rc, -, -, -, hr⟩ |
      ⟨layout, fd, -, -, -, -, ⟨rc, -, hr⟩ | ⟨logFd, -, -, hr⟩⟩
    · have hnodev : grallocGbmAndroidBufferNew cfg env desc p = (.err (-eNODEV), p) := by
        simp [grallocGbmAndroidBufferNew, hready]
      rw [hnodev] at hrc
      cases hrc
    · exact ⟨hready, halloc⟩
    all_goals
      rw [hr] at hcalls
      simp only [boCreateCalls] at hcalls
      exact absurd hcalls (List.cons_ne_self _ _)
  · rintro ⟨hready, halloc⟩
    unfold NewRefuses
    rw [grallocGbmAndroidBufferNew_noHandle hready halloc]
    exact ⟨rfl, rfl⟩

/-- And the import refuses none. -/
theorem not_importRefuses {env : Env} {handle : NativeHandle} {p : Proc} :
    ¬ ImportRefuses cfg env handle p := by
  rintro ⟨hrc, hcalls⟩
  rcases grallocGbmAndroidBufferImport_cases cfg env handle p with ⟨-, hr⟩ | ⟨-, -, hr⟩ |
    ⟨-, -, -, hr⟩ | ⟨layout, -, -, -, hr⟩
  · rw [hr] at hrc
    exact absurd hrc (by decide : ¬ -eNODEV = -eINVAL)
  · rw [hr] at hrc
    exact absurd hrc (by decide : ¬ -eNOMEM = -eINVAL)
  all_goals
    rw [hr] at hcalls
    simp only [boImportCalls] at hcalls
    exact absurd hcalls (List.cons_ne_self _ _)

/-- The pixel stride of an unlisted format. -/
theorem pixelStride_of_not_listed (h : ¬ Listed format) (stride : UInt32) :
    grallocGbmCalculateAndroidPixelStride format stride = some (stride / 255).toInt32 := by
  unfold grallocGbmCalculateAndroidPixelStride
  dsimp only
  rw [if_neg (colorFmtA2g_pos format), colorFmtA2g_of_not_listed h, colorBytesPerPixel_notFound]
  rfl

/-- A format is refused on all four paths. -/
structure Refused (cfg : BuildConfig) (env : Env) (desc : AllocatorDesc) (handle : NativeHandle)
    (stride : UInt32) (p : Proc) : Prop where
  descriptor : grallocGbmIsAllocatorDescSupported cfg env.isFormatSupported (isGrallocGbmReady p) desc
    = false
  creation : NewRefuses cfg env desc p
  importing : ImportRefuses cfg env handle p
  pixelStride : grallocGbmCalculateAndroidPixelStride desc.format.toUInt32 stride
    = some (Int32.ofInt (-eINVAL))

/-- **Unlisted formats.**  None is refused on all four paths, and on each path the format has no part
    in it: the descriptor is judged as that of any format, with the sentinel for a format code;
    creation fails for want of memory only, and never before gbm is asked otherwise; nor does the
    import; and the pixel stride is a 255th of the bytes. -/
theorem unlisted_iff (hformat : ¬ Listed format) (cfg : BuildConfig) (env : Env) {desc : AllocatorDesc}
    (hdesc : desc.format.toUInt32 = format) {handle : NativeHandle}
    (hhandle : (grallocHandle handle).format = format) (stride : UInt32) (p : Proc) :
    ¬ Refused cfg env desc handle stride p ∧
    (grallocGbmIsAllocatorDescSupported cfg env.isFormatSupported (isGrallocGbmReady p) desc = true ↔
      isGrallocGbmReady p = true ∧
      (desc.width ≤ grallocGbmWidthMax ∧ desc.height ≤ grallocGbmHeightMax) ∧ desc.usage ≠ 0 ∧
      FlagsAccepted cfg (descFlags cfg desc) notFoundFormat ∧
      env.isFormatSupported notFoundFormat (descFlags cfg desc) = true) ∧
    (NewRefuses cfg env desc p ↔ isGrallocGbmReady p = true ∧ env.alloc p.calls.length = false) ∧
    (¬ ImportRefuses cfg env handle p ∧ (importArgs cfg (grallocHandle handle)).1.format = notFoundFormat) ∧
    grallocGbmCalculateAndroidPixelStride format stride = some (stride / 255).toInt32 := by
  have hsentinel : colorFmtA2g desc.format.toUInt32 = notFoundFormat := by
    rw [hdesc]
    exact colorFmtA2g_of_not_listed hformat
  refine ⟨fun h => not_importRefuses h.importing, ?_, newRefuses_iff, ⟨not_importRefuses, ?_⟩,
    pixelStride_of_not_listed hformat stride⟩
  · rw [accepted_iff, hsentinel]
  · show colorFmtA2g (grallocHandle handle).format = notFoundFormat
    rw [hhandle]
    exact colorFmtA2g_of_not_listed hformat

end

/-- A texture of format BLOB, which is not listed. -/
def blobTexture : AllocatorDesc := ⟨64, 64, 1, 0x21, 0x133, 0⟩

/-- The format BLOB has no entry. -/
theorem blob_not_listed : ¬ Listed halPixelFormatBlob := by
  rintro ⟨e, he, hkey⟩
  exact (by decide : ∀ e ∈ colorFormatMap, e.androidFormat ≠ halPixelFormatBlob) e he hkey

/-- What the four callers do with it. -/
theorem blob_unlisted :
    let handle := formatHandle halPixelFormatBlob 256
    ¬ Refused .androidBp .plain blobTexture handle 256 .ready ∧
    (grallocGbmIsAllocatorDescSupported .androidBp (Env.isFormatSupported .plain)
        (isGrallocGbmReady .ready) blobTexture = true ↔
      isGrallocGbmReady .ready = true ∧
      (blobTexture.width ≤ grallocGbmWidthMax ∧ blobTexture.height ≤ grallocGbmHeightMax) ∧
      blobTexture.usage ≠ 0 ∧
      FlagsAccepted .androidBp (descFlags .androidBp blobTexture) notFoundFormat ∧
      Env.isFormatSupported .plain notFoundFormat (descFlags .androidBp blobTexture) = true) ∧
    (NewRefuses .androidBp .plain blobTexture .ready ↔
      isGrallocGbmReady .ready = true ∧ Env.alloc .plain (Proc.ready.calls.length) = false) ∧
    (¬ ImportRefuses .androidBp .plain handle .ready ∧
      (importArgs .androidBp (grallocHandle handle)).1.format = notFoundFormat) ∧
    grallocGbmCalculateAndroidPixelStride halPixelFormatBlob 256 = some ((256 : UInt32) / 255).toInt32 :=
  unlisted_iff blob_not_listed .androidBp .plain rfl rfl 256 .ready

/-- It is accepted; the object is made, and the handle imported, with a format code that is an error
    number; and its rows of 256 bytes are one pixel wide. -/
theorem blob_not_refused :
    let handle := formatHandle halPixelFormatBlob 256
    halPixelFormatBlob ∉ colorFormatMap.map ColorFmt.androidFormat ∧
    grallocGbmIsAllocatorDescSupported .androidBp (fun _ _ => true) true blobTexture = true ∧
    (grallocGbmAndroidBufferNew .androidBp .plain blobTexture .ready).1.isOk = true ∧
    (boCreateCalls (grallocGbmAndroidBufferNew .androidBp .plain blobTexture .ready).2.calls).map
        (fun call => call.1.format) = [0xFFFFFFEA] ∧
    (grallocGbmAndroidBufferImport .androidBp .plain handle .ready).1 = 0 ∧
    (boImportCalls (grallocGbmAndroidBufferImport .androidBp .plain handle .ready).2.calls).map
        (fun call => call.1.format) = [0xFFFFFFEA] ∧
    grallocGbmCalculateAndroidPixelStride halPixelFormatBlob 256 = some 1 := by
  refine ⟨by decide, by decide, by decide, by decide, by decide, by decide, by decide⟩

/-! ## Listed formats and their pixel sizes

  The entries of the second table, format by format, and the division by them. -/

/-- The bytes of a pixel by the table; `none` for a GBM format that has no entry. -/
def bytesOf (gbmFormat : UInt32) : Option UInt8 :=
  (Keyed.lookup ColorBpp.gbmFormat gbmFormat colorBppMap).map (fun e => e.bpp / 8)

/-- The table has each code once, so that any entry is the one found. -/
theorem bytesOf_eq_some {gbmFormat : UInt32} {b : UInt8} :
    bytesOf gbmFormat = some b ↔ ∃ e ∈ colorBppMap, e.gbmFormat = gbmFormat ∧ e.bpp / 8 = b := by
  have hnodup : (colorBppMap.map ColorBpp.gbmFormat).Nodup := by decide
  unfold bytesOf
  rw [Option.map_eq_some_iff]
  constructor
  · rintro ⟨e, hlookup, hb⟩
    exact ⟨e, Keyed.mem_of_lookup hlookup, Keyed.key_of_lookup hlookup, hb⟩
  · rintro ⟨e, he, rfl, hb⟩
    exact ⟨e, Keyed.lookup_eq_some_of_mem hnodup he, hb⟩

/-- The source divides by 255 where there is no entry. -/
theorem colorBytesPerPixel_eq (gbmFormat : UInt32) :
    colorBytesPerPixel gbmFormat = (bytesOf gbmFormat).getD 255 := by
  have hlookup : colorBppMap.find? (fun e => e.gbmFormat == gbmFormat)
      = Keyed.lookup ColorBpp.gbmFormat gbmFormat colorBppMap := rfl
  unfold colorBytesPerPixel bytesOf
  rw [hlookup]
  cases Keyed.lookup ColorBpp.gbmFormat gbmFormat colorBppMap <;> rfl

/-- The pixel stride is the byte stride in pixels of an entry of the table, or an error where the
    format has no entry to divide by. -/
def PixelStrideExact (format stride : UInt32) : Prop :=
  ∃ pixels, grallocGbmCalculateAndroidPixelStride format stride = some pixels ∧
    ((∃ e ∈ colorBppMap, e.gbmFormat = colorFmtA2g format ∧ e.bpp / 8 ≠ 0 ∧
        pixels.toInt * (e.bpp / 8).toNat ≤ stride.toNat ∧
        (stride.toNat : Int) < (pixels.toInt + 1) * (e.bpp / 8).toNat) ∨
      ((¬ ∃ e ∈ colorBppMap, e.gbmFormat = colorFmtA2g format ∧ e.bpp / 8 ≠ 0) ∧
        pixels = Int32.ofInt (-eINVAL)))

/-- A quotient that does not fit an `int32_t` comes out negative. -/
theorem toInt_toInt32_neg {u : UInt32} (hu : 2 ^ 31 ≤ u.toNat) : u.toInt32.toInt < 0 := by
  have hlt := u.toNat_lt
  show u.toBitVec.toInt < 0
  rw [BitVec.toInt_eq_toNat_cond, if_neg (by show ¬ 2 * u.toNat < _; omega)]
  show (u.toNat : Int) - _ < 0
  omega

/-- The quotient is exact as long as it fits. -/
theorem quotient_exact_iff (stride : UInt32) {b : UInt8} (hb : 0 < b.toNat) :
    let pixels := (stride / b.toUInt32).toInt32.toInt
    (pixels * b.toNat ≤ stride.toNat ∧ (stride.toNat : Int) < (pixels + 1) * b.toNat) ↔
      stride.toNat < 2 ^ 31 ∨ 1 < b.toNat := by
  intro pixels
  have hquot : (stride / b.toUInt32).toNat = stride.toNat / b.toNat := by
    rw [UInt32.toNat_div, UInt8.toNat_toUInt32]
  have hsize := stride.toNat_lt
  have hfits : stride.toNat / b.toNat < 2 ^ 31 ↔ stride.toNat < 2 ^ 31 ∨ 1 < b.toNat := by
    rw [Nat.div_lt_iff_lt_mul hb]
    constructor
    · intro h
      by_contra hnot
      have hone : b.toNat = 1 := by omega
      rw [hone] at h
      omega
    · rintro (h | h)
      · exact lt_of_lt_of_le h (Nat.le_mul_of_pos_right _ hb)
      · have := Nat.mul_le_mul_left (2 ^ 31) (show 2 ≤ b.toNat from h)
        omega
  rw [← hfits]
  constructor
  · rintro ⟨-, hupper⟩
    by_contra hnot
    have hneg : pixels < 0 := toInt_toInt32_neg (by omega)
    have hle : (pixels + 1) * (b.toNat : Int) ≤ 0 :=
      Int.mul_nonpos_of_nonpos_of_nonneg (by omega) (Int.natCast_nonneg _)
    omega
  · intro h
    have hpixels : pixels = (stride.toNat / b.toNat : Nat) := by
      rw [← hquot]
      exact toInt_toInt32 (by omega)
    have hlow := Nat.div_mul_le_self stride.toNat b.toNat
    have hupp := Nat.lt_mul_div_succ stride.toNat hb
    rw [Nat.mul_comm] at hupp
    rw [hpixels]
    exact ⟨by exact_mod_cast hlow, by exact_mod_cast hupp⟩

section

variable {format stride : UInt32}

/-- The quotient, where there is something to divide by. -/
theorem pixelStride_of_bytes {b : UInt8} (hb : colorBytesPerPixel (colorFmtA2g format) = b) (hne : b ≠ 0) :
    grallocGbmCalculateAndroidPixelStride format stride = some (stride / b.toUInt32).toInt32 := by
  unfold grallocGbmCalculateAndroidPixelStride
  dsimp only
  rw [if_neg (colorFmtA2g_pos format), hb, if_neg hne]

/-- An entry to divide by, and a quotient that fits. -/
theorem pixelStrideExact_iff_bytesOf :
    PixelStrideExact format stride ↔
      ∃ b, bytesOf (colorFmtA2g format) = some b ∧ b ≠ 0 ∧ (stride.toNat < 2 ^ 31 ∨ 1 < b.toNat) := by
  have hpos : ∀ {b : UInt8}, b ≠ 0 → 0 < b.toNat := fun hne =>
    Nat.pos_of_ne_zero fun h => hne (UInt8.toNat_inj.mp h)
  have hbytes := colorBytesPerPixel_eq (colorFmtA2g format)
  constructor
  · rintro ⟨pixels, hcalc, ⟨e, he, hkey, hne, hexact⟩ | ⟨hnone, hrc⟩⟩
    · have hb := bytesOf_eq_some.mpr ⟨e, he, hkey, rfl⟩
      rw [hb] at hbytes
      rw [pixelStride_of_bytes hbytes hne] at hcalc
      cases hcalc
      exact ⟨_, hb, hne, (quotient_exact_iff stride (hpos hne)).mp hexact⟩
    · -- without an entry to divide by there is no error: either there is no quotient, or it is by 255
      exfalso
      cases hb : bytesOf (colorFmtA2g format) with
      | some b =>
        obtain ⟨e, he, hkey, rfl⟩ := bytesOf_eq_some.mp hb
        have hzero : e.bpp / 8 = 0 := by
          by_contra hne
          exact hnone ⟨e, he, hkey, hne⟩
        rw [hb] at hbytes
        rw [grallocGbmCalculateAndroidPixelStride_eq_none.mpr (hbytes.trans hzero)] at hcalc
        cases hcalc
      | none =>
        rw [hb, Option.getD_none] at hbytes
        rw [pixelStride_of_bytes hbytes (by decide), hrc] at hcalc
        have hquot : (stride / (255 : UInt8).toUInt32).toNat = stride.toNat / 255 := by
          rw [UInt32.toNat_div]
          rfl
        have hsize := stride.toNat_lt
        have hint := toInt_toInt32 (u := stride / (255 : UInt8).toUInt32) (by omega)
        rw [Option.some.inj hcalc] at hint
        have hrc' : (Int32.ofInt (-eINVAL)).toInt = -22 := by decide
        omega
  · rintro ⟨b, hb, hne, hfits⟩
    obtain ⟨e, he, hkey, rfl⟩ := bytesOf_eq_some.mp hb
    rw [hb] at hbytes
    exact ⟨_, pixelStride_of_bytes hbytes hne,
      .inl ⟨e, he, hkey, hne, (quotient_exact_iff stride (hpos hne)).mpr hfits⟩⟩

/-- The table of pixel sizes, read through the table of formats. -/
theorem bytesOf_listed (hlisted : Listed format) :
    (bytesOf (colorFmtA2g format) = none ↔ format = halPixelFormatYcbcrP010) ∧
    (bytesOf (colorFmtA2g format) = some 0 ↔ format = halPixelFormatExtUnknown) ∧
    (bytesOf (colorFmtA2g format) = some 1 ↔ format = halPixelFormatY8 ∨
      format = halPixelFormatYcrcb420Sp ∨ format = halPixelFormatYcbcr420888) := by
  obtain ⟨e, he, rfl⟩ := hlisted
  exact (by decide : ∀ e ∈ colorFormatMap,
    (bytesOf (colorFmtA2g e.androidFormat) = none ↔ e.androidFormat = halPixelFormatYcbcrP010) ∧
    (bytesOf (colorFmtA2g e.androidFormat) = some 0 ↔ e.androidFormat = halPixelFormatExtUnknown) ∧
    (bytesOf (colorFmtA2g e.androidFormat) = some 1 ↔ e.androidFormat = halPixelFormatY8 ∨
      e.androidFormat = halPixelFormatYcrcb420Sp ∨ e.androidFormat = halPixelFormatYcbcr420888)) e he

/-- **Pixel strides of listed formats** are exact but for P010, which is divided by the sentinel,
    `EXT_UNKNOWN`, which is divided by zero, and strides from 2^31 on where a pixel takes one byte. -/
theorem pixelStrideExact_iff (hlisted : Listed format) :
    PixelStrideExact format stride ↔
      format ≠ halPixelFormatYcbcrP010 ∧ format ≠ halPixelFormatExtUnknown ∧
      (stride.toNat < 2 ^ 31 ∨ ¬ (format = halPixelFormatY8 ∨ format = halPixelFormatYcrcb420Sp ∨
        format = halPixelFormatYcbcr420888)) := by
  obtain ⟨hp010, hunknown, hone⟩ := bytesOf_listed hlisted
  rw [pixelStrideExact_iff_bytesOf, ne_eq, ne_eq, ← hp010, ← hunknown, ← hone]
  cases bytesOf (colorFmtA2g format) with
  | none => simp
  | some b =>
    have hlarge : b ≠ 0 → (1 < b.toNat ↔ b ≠ 1) := by
      intro hne
      have hzero : b.toNat ≠ 0 := fun h => hne (UInt8.toNat_inj.mp h)
      have hval : b = 1 ↔ b.toNat = 1 := UInt8.toNat_inj.symm
      rw [ne_eq, hval]
      omega
    simp only [Option.some.injEq, exists_eq_left', reduceCtorEq, not_false_eq_true, true_and]
    exact and_congr_right fun hne => or_congr_right (hlarge hne)

end

/-- Of two bytes a pixel, the largest stride still fits. -/
theorem rgb565_pixelStrideExact :
    PixelStrideExact halPixelFormatRgb565 0xFFFFFFFF ↔
      halPixelFormatRgb565 ≠ halPixelFormatYcbcrP010 ∧
      halPixelFormatRgb565 ≠ halPixelFormatExtUnknown ∧
      ((0xFFFFFFFF : UInt32).toNat < 2 ^ 31 ∨ ¬ (halPixelFormatRgb565 = halPixelFormatY8 ∨
        halPixelFormatRgb565 = halPixelFormatYcrcb420Sp ∨
        halPixelFormatRgb565 = halPixelFormatYcbcr420888)) :=
  pixelStrideExact_iff ⟨⟨halPixelFormatRgb565, gbmFormatBgr565⟩, by decide, rfl⟩

/-- A row of 8192 bytes of P010 is 32 pixels long, and one of `EXT_UNKNOWN` ends the process. -/
theorem listed_not_pixelStrideExact :
    grallocGbmCalculateAndroidPixelStride halPixelFormatYcbcrP010 8192 = some 32 ∧
    (∀ e ∈ colorBppMap, e.gbmFormat ≠ colorFmtA2g halPixelFormatYcbcrP010) ∧
    ¬ PixelStrideExact halPixelFormatYcbcrP010 8192 ∧
    grallocGbmCalculateAndroidPixelStride halPixelFormatExtUnknown 8192 = none ∧
    ¬ PixelStrideExact halPixelFormatExtUnknown 8192 := by
  refine ⟨by decide, by decide, ?_, by decide, ?_⟩
  · rw [pixelStrideExact_iff_bytesOf]
    rintro ⟨b, hb, -⟩
    exact absurd hb (by simp [show bytesOf (colorFmtA2g halPixelFormatYcbcrP010) = none by decide])
  · rintro ⟨pixels, hcalc, -⟩
    exact absurd hcalc (by
      simp [show grallocGbmCalculateAndroidPixelStride halPixelFormatExtUnknown 8192 = none by decide])

end GrallocGbm
